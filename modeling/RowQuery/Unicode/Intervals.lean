/-!
Sets of code points held as a search tree of intervals.

* `Intervals.mem`: whether a code point lies in one of the intervals.
* `Intervals.ofList`: the balanced tree of a sorted list of disjoint intervals.
* `Intervals.ofTable`: the intervals that a written table lists.

A table is a list of lines of words. `41-5a` is an interval in hexadecimal, `aa` the interval of
one code point, and `100-12e/2` every second code point from the first to the last.
-/
namespace RowQuery.Unicode

/-- A search tree of disjoint intervals, those on the left below those on the right. -/
inductive Intervals where
  | empty
  | node (left : Intervals) (first last : Nat) (right : Intervals)
deriving DecidableEq

namespace Intervals

/-- Whether `n` lies in one of the intervals. -/
def mem : Intervals → Nat → Bool
  | .empty, _ => false
  | .node left first last right, n =>
    if n < first then left.mem n
    else if last < n then right.mem n
    else true

/-- The intervals in increasing order. -/
def toList : Intervals → List (Nat × Nat)
  | .empty => []
  | .node left first last right => left.toList ++ (first, last) :: right.toList

/-- A balanced tree of the first `n` intervals of a list, and the intervals left over. -/
def build (n : Nat) (items : List (Nat × Nat)) : Intervals × List (Nat × Nat) :=
  if n = 0 then (.empty, items)
  else
    let (left, items) := build (n / 2) items
    match items with
    | [] => (left, [])
    | (first, last) :: items =>
      let (right, items) := build (n - 1 - n / 2) items
      (.node left first last right, items)
termination_by n
decreasing_by all_goals omega

/-- The tree of a sorted list of disjoint intervals. -/
def ofList (items : List (Nat × Nat)) : Intervals := (build items.length items).1

/-- The value of a hexadecimal digit; other characters count as zero. -/
def digit (c : Char) : Nat :=
  if '0' ≤ c && c ≤ '9' then c.toNat - 48
  else if 'a' ≤ c && c ≤ 'f' then c.toNat - 87
  else 0

/-- A hexadecimal number. -/
def hex (s : List Char) : Nat := s.foldl (fun n c => n * 16 + digit c) 0

/-- The intervals that one word of a table stands for. -/
def ofWord (word : List Char) : List (Nat × Nat) :=
  let first := hex (word.takeWhile (· != '-'))
  match word.dropWhile (· != '-') with
  | [] => [(first, first)]
  | _ :: rest =>
    let last := hex (rest.takeWhile (· != '/'))
    if rest.contains '/' then
      (List.range ((last - first) / 2 + 1)).map fun i => (first + 2 * i, first + 2 * i)
    else [(first, last)]

/-- The words of a line, in order; the word being read is held in reverse. -/
def wordsFrom (current : List Char) : List Char → List (List Char)
  | [] => if current.isEmpty then [] else [current.reverse]
  | c :: r =>
    if c = ' ' then
      if current.isEmpty then wordsFrom [] r else current.reverse :: wordsFrom [] r
    else wordsFrom (c :: current) r

/-- The intervals that a table lists, in the order written. -/
def listed (table : List String) : List (Nat × Nat) :=
  table.flatMap fun line => (wordsFrom [] line.toList).flatMap ofWord

/-- The set that a table lists. -/
def ofTable (table : List String) : Intervals := ofList (listed table)

end Intervals
end RowQuery.Unicode
