import RowQuery.Text.Quoted

/-!
The terms of a query.

* `PatternKind`: a word, a quote or a regular expression.
* `Term`: a pattern, maybe within a column, maybe negated.
-/
namespace RowQuery

/-- How the text of a term is meant. A word is found as it is. A quote is found as it is in the whole
row, and is all of the text in a column. A regular expression is used as written. -/
inductive PatternKind where
  | word
  | quote
  | regex
deriving DecidableEq, Repr

/-- The name of a kind in descriptions. -/
def PatternKind.label : PatternKind → String
  | .word => "WORD"
  | .quote => "QUOTE"
  | .regex => "REGEX"

/-- One term of a query. -/
structure Term where
  column : Option String
  kind : PatternKind
  text : String
  negate : Bool
deriving DecidableEq, Repr

namespace Term

/-- Whether the term is about the whole row. -/
def isBare (term : Term) : Bool := term.column.isNone

/-- Whether the term takes its place in the order of the words of the row: it is about the whole row
and not negated. -/
def isOrdered (term : Term) : Bool := term.isBare && !term.negate

/-- The description of the term's pattern. -/
def patternDescription (term : Term) : String :=
  term.kind.label ++ "(" ++ Text.quoted term.text ++ ")"

end Term
end RowQuery
