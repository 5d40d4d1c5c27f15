import RowQuery.Regex.Pattern
import RowQuery.Regex.Search

/-!
Compiled regular expressions.

* `Regex.compile`: a pattern compiled within a limit of size.
* `Regex.isMatch`, `Regex.find?`, `Regex.findAll`: matches in a text.
* `escape`: the pattern of a text that is to be found as it is.
-/
namespace RowQuery

namespace Regex

/-- Why a pattern is refused. -/
inductive Fault where
  | malformed
  | tooBig
deriving DecidableEq, Inhabited, Repr

/-- The size up to which programs are accepted; a program of this size is too big. -/
abbrev Limit := Nat

/-- A pattern with a backslash before each character that has a meaning of its own. -/
def escape (s : List Char) : List Char :=
  s.flatMap fun c => if isMeta c then ['\\', c] else [c]

end Regex

/-- A regular expression: the pattern it was written as, the expression itself and its program. -/
structure Regex where
  source : String
  node : Regex.Node
  program : Regex.Program
  program_eq : program = .ofNode node := by rfl

namespace Regex

/-- The regular expression of a node, under the pattern it was written as. -/
def ofNode (source : String) (node : Node) : Regex :=
  { source, node, program := .ofNode node }

/-- Compiles a pattern. -/
def compile (limit : Limit) (pattern : String) : Except Fault Regex :=
  match Pattern.parse? pattern.toList with
  | none => .error .malformed
  | some node => if node.weight < limit then .ok (ofNode pattern node) else .error .tooBig

/-- A pattern together with the expression that it reads as. -/
structure Known where
  pattern : String
  node : Node
  parse?_pattern : Pattern.parse? pattern.toList = some node

/-- The regular expression of a known pattern. -/
def Known.regex (known : Known) : Regex := ofNode known.pattern known.node

/-- Compiling a known pattern gives its regular expression, if the limit allows it. -/
theorem Known.compile_eq (known : Known) {limit : Limit} (h : known.node.weight < limit) :
    compile limit known.pattern = .ok known.regex := by
  simp [compile, known.parse?_pattern, h, Known.regex]

/-- One more than the greatest group. -/
def groups (regex : Regex) : Nat := regex.node.groups

/-- The first match that begins at `offset` or later. -/
def findFrom? (regex : Regex) (text : List Char) (offset : Nat) : Option Found :=
  regex.program.find? text offset

/-- The first match. -/
def find? (regex : Regex) (text : List Char) : Option Found := regex.findFrom? text 0

/-- Whether there is a match. -/
def isMatch (regex : Regex) (text : List Char) : Bool := (regex.find? text).isSome

/-- The part of a text between two places. -/
def slice (text : List Char) (start stop : Nat) : List Char := (text.drop start).take (stop - start)

/-- The text of a group. -/
def Found.text? (found : Found) (text : List Char) (index : Nat) : Option (List Char) :=
  (found.group? index).map fun (start, stop) => slice text start stop

/-- The matches from a place on, each beginning where the one before ended or later. A match of the
empty text right there is no new match, and the search goes on one character further. -/
def findAllFrom (regex : Regex) (text : List Char) : Nat → Nat → Option Nat → List Found
  | 0, _, _ => []
  | steps + 1, offset, last =>
    match regex.findFrom? text offset with
    | none => []
    | some found =>
      if found.start = found.stop && last = some found.stop then
        findAllFrom regex text steps (offset + 1) last
      else found :: findAllFrom regex text steps found.stop (some found.stop)

/-- The matches in a text that do not overlap, from the left. -/
def findAll (regex : Regex) (text : List Char) : List Found :=
  findAllFrom regex text (2 * text.length + 3) 0 none

end Regex
end RowQuery
