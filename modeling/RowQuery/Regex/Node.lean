import RowQuery.Unicode.Property

/-!
Regular expressions as trees.

* `Look`: conditions on the place between two characters.
* `Node`: regular expressions. Alternatives are tried in order, and a repetition tries another
  round first if it is greedy and last if it is not.
* `Node.ofSet`, `Node.repeated`: sets and repetitions in their simplest form.
* `Node.minLength?`: the length of the shortest text that an expression can match.
* `Node.weight`: how much program an expression stands for, repetitions written out.
-/
namespace RowQuery.Regex

open Unicode (CharSet)

/-- The kinds of word boundary. -/
inductive Boundary where
  | either
  | neither
  | start
  | stop
  | startHalf
  | stopHalf
deriving DecidableEq, Repr

/-- Conditions on a place in a text. `crlf` anchors take `\r`, `\n` and `\r\n` as line ends. The
boundaries of words take the word characters of the basic Latin alphabet alone if `basic` is
set. -/
inductive Look where
  | textStart
  | textEnd
  | lineStart
  | lineEnd
  | crlfStart
  | crlfEnd
  | word (basic : Bool) (kind : Boundary)
deriving DecidableEq, Repr

/-- Whether a character, if there is one, belongs to a word. -/
def inWord (basic : Bool) : Option Char → Bool
  | none => false
  | some c => (if basic then Unicode.Property.basicWord else Unicode.Property.word).mem c

/-- Whether a kind of boundary lies between a character that belongs to a word or not, and one
that does or does not. -/
def Boundary.holds (before after : Bool) : Boundary → Bool
  | .either => before != after
  | .neither => before == after
  | .start => !before && after
  | .stop => before && !after
  | .startHalf => !before
  | .stopHalf => !after

/-- Whether a condition holds between the character before a place and the text after it. -/
def Look.holds (before : Option Char) (rest : List Char) : Look → Bool
  | .textStart => before.isNone
  | .textEnd => rest.isEmpty
  | .lineStart => before.isNone || before == some '\n'
  | .lineEnd => rest.isEmpty || rest.head? == some '\n'
  | .crlfStart => before.isNone || before == some '\n' ||
      (before == some '\r' && rest.head? != some '\n')
  | .crlfEnd => rest.isEmpty || rest.head? == some '\r' ||
      (rest.head? == some '\n' && before != some '\r')
  | .word basic kind => kind.holds (inWord basic before) (inWord basic rest.head?)

/-- Regular expressions. `text s` is a text as it stands. `set s basic` is one character of a set;
`basic` tells that the set was written where only basic Latin characters count. `iterate a min max
greedy` is `a` from `min` to `max` times, without an upper limit if `max` is absent; `group i a` is
`a` with its text kept as group `i`. -/
inductive Node where
  | empty
  | text (s : List Char)
  | set (s : CharSet) (basic : Bool)
  | look (l : Look)
  | cat (a b : Node)
  | alt (a b : Node)
  | group (index : Nat) (a : Node)
  | iterate (a : Node) (min : Nat) (max : Option Nat) (greedy : Bool)
deriving DecidableEq

namespace Node

/-- One expression after another. -/
def cats : List Node → Node
  | [] => .empty
  | [a] => a
  | a :: r => .cat a (cats r)

/-- The expression that matches nothing. -/
def never : Node := .set .none true

/-- One of several expressions. No alternative at all matches nothing. -/
def alts : List Node → Node
  | [] => never
  | [a] => a
  | a :: r => .alt a (alts r)

/-- The expression of one character. -/
def char (c : Char) : Node := .text [c]

/-- One character of a set. The set of one character is that character, and no character of the empty
set ever matches. -/
def ofSet (s : CharSet) (basic : Bool) : Node :=
  match s.member?, s.only? with
  | none, _ => never
  | _, some c => .char c
  | _, none => .set s basic

/-- Whether the expression matches no text but the empty one, whatever its conditions say. -/
def onlyEmpty : Node → Bool
  | .empty => true
  | .text s => s.isEmpty
  | .set _ _ => false
  | .look _ => true
  | .cat a b => a.onlyEmpty && b.onlyEmpty
  | .alt a b => a.onlyEmpty && b.onlyEmpty
  | .group _ a => a.onlyEmpty
  | .iterate a _ max _ => a.onlyEmpty || max == some 0

/-- The length of the shortest text that the expression can match, its conditions left out of
account. There is none if one of its sets is empty. -/
def minLength? : Node → Option Nat
  | .empty => some 0
  | .text s => some s.length
  | .set s _ => s.member?.map fun _ => 1
  | .look _ => some 0
  | .cat a b => do return (← a.minLength?) + (← b.minLength?)
  | .alt a b => do return Nat.min (← a.minLength?) (← b.minLength?)
  | .group _ a => a.minLength?
  | .iterate a min _ _ => a.minLength?.map (· * min)

/-- Whether the expression is known to take a character of the text or more. -/
def alwaysConsumes (a : Node) : Bool := a.minLength?.any (0 < ·)

/-- A repetition in its simplest form: what matches only the empty text is repeated once at most,
no round at all is the empty expression, and exactly one round is the expression itself. -/
def repeated (a : Node) (min : Nat) (max : Option Nat) (greedy : Bool) : Node :=
  let (min, max) :=
    if a.onlyEmpty then (Nat.min min 1, some (Nat.min (max.getD 1) 1)) else (min, max)
  if max = some 0 then .empty
  else if min = 1 ∧ max = some 1 then a
  else .iterate a min max greedy

/-- One more than the greatest group in the expression. Group 0 is the whole match. -/
def groups : Node → Nat
  | .empty => 1
  | .text _ => 1
  | .set _ _ => 1
  | .look _ => 1
  | .cat a b => Nat.max a.groups b.groups
  | .alt a b => Nat.max a.groups b.groups
  | .group index a => Nat.max (index + 1) a.groups
  | .iterate a _ _ _ => a.groups

/-- How much program an expression stands for: one for a character, one for a set of basic Latin
characters and ten for another, and as much for a repetition as for its rounds written out. -/
def weight : Node → Nat
  | .empty => 0
  | .text s => s.length
  | .set s _ => if (s.diff (.interval 0 0x7f)).member?.isNone then 1 else 10
  | .look _ => 0
  | .cat a b => a.weight + b.weight
  | .alt a b => a.weight + b.weight
  | .group _ a => a.weight
  | .iterate a min max _ => a.weight * (max.getD (Nat.max min 1))

end Node
end RowQuery.Regex
