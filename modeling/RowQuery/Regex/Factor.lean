import RowQuery.Regex.Node

/-!
Sequences and choices in their simplest form.

* `Node.sequence`: a sequence without empty parts, without sequences among its parts and with no two
  texts side by side.
* `Node.same`: whether two expressions are alike, sets compared by their characters.
* `Node.union`: a choice without choices among its alternatives, which is a set if all alternatives
  are characters or all are sets.
* `Node.choice`: such a choice in which the common beginning of all alternatives is written once,
  before the choice between what follows it.

Writing the common beginning once decides how much text it takes before it decides which alternative
is meant. So of `.*a` and `.*b` the alternative that takes more text wins.
-/
namespace RowQuery.Regex.Node

open Unicode (CharSet)

/-- The parts of an expression as a sequence. -/
def parts : Node → List Node
  | .empty => []
  | .cat a b => a.parts ++ b.parts
  | a => [a]

/-- A part before others. A text joins the text after it. -/
def before : Node → List Node → List Node
  | .text s, .text t :: r => .text (s ++ t) :: r
  | a, r => a :: r

/-- One expression after another, in the simplest form. -/
def sequence (items : List Node) : Node := cats ((items.flatMap parts).foldr before [])

/-- The alternatives of an expression as a choice. -/
def alternatives : Node → List Node
  | .alt a b => a.alternatives ++ b.alternatives
  | a => [a]

/-- The character that the expression is the text of. -/
def char? : Node → Option Char
  | .text [c] => some c
  | _ => none

/-- The set that the expression is one character of. -/
def set? : Node → Option CharSet
  | .set s _ => some s
  | _ => none

/-- The sets of some expressions that are all characters or all sets. A character beside a set is not
taken for a set. -/
def sets? (items : List Node) : Option (List CharSet) :=
  (items.mapM char?).map (·.map .single) <|> items.mapM set?

/-- One of several expressions, in the simplest form that does not look for a common beginning. -/
def union (items : List Node) : Node :=
  match items.flatMap alternatives with
  | [a] => a
  | items =>
    match sets? items with
    | some sets => ofSet (.unionAll sets) false
    | none => alts items

/-- Whether two expressions are written alike, up to the way their sets are written. A set written
where only basic Latin characters count is never like one written where all do. -/
def same : Node → Node → Bool
  | .empty, .empty => true
  | .text s, .text t => s == t
  | .set s basic, .set t basic' => basic == basic' && s.same t
  | .look l, .look m => l == m
  | .cat a b, .cat c d => a.same c && b.same d
  | .alt a b, .alt c d => a.same c && b.same d
  | .group i a, .group j b => i == j && a.same b
  | .iterate a min max greedy, .iterate b min' max' greedy' =>
    min == min' && max == max' && greedy == greedy' && a.same b
  | _, _ => false

/-- How many parts two sequences have in common at their start. -/
def shared : List Node → List Node → Nat
  | a :: r, b :: s => if a.same b then shared r s + 1 else 0
  | _, _ => 0

/-- How many parts some sequences have in common at their start, if all of them have two parts or
more. -/
def sharedByAll : List (List Node) → Nat
  | [] => 0
  | first :: others =>
    if (first :: others).all (2 ≤ ·.length) then
      others.foldl (fun n other => Nat.min n (shared first other)) first.length
    else 0

/-- One of several expressions, in the simplest form. -/
def choice (items : List Node) : Node :=
  let branches := (items.flatMap alternatives).map parts
  match branches, sharedByAll branches with
  | first :: _, count + 1 =>
    sequence (first.take (count + 1) ++ [union (branches.map fun b => cats (b.drop (count + 1)))])
  | _, _ => union items

end RowQuery.Regex.Node
