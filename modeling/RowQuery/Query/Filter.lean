import RowQuery.Query.Term
import RowQuery.Regex.Basic
import RowQuery.Row.Data

/-!
Filters ready for use.

* `Target`: the text of a row that is looked at.
* `Clause`: a regular expression to be found, or not to be found, in a target.
* `Filter`: all rows, or the rows that satisfy every clause.
-/
namespace RowQuery

/-- The text that a clause looks at: the whole row or one column. -/
inductive Target where
  | row
  | column (name : String) (offset : Nat)
deriving DecidableEq, Repr

/-- The text of a row that a target stands for. An offset beyond the row has the empty text. -/
def Target.extract (data : RowData) : Target → String
  | .row => data.wholeRow
  | .column _ offset => (data.get? offset).getD ""

/-- A condition on rows: the terms it comes from, the regular expression derived from them, and where
it is to be found, or not to be found if `negate` is set. -/
structure Clause where
  terms : List Term
  regex : Regex
  target : Target
  negate : Bool

namespace Clause

/-- Whether a row satisfies the condition. -/
def holds (clause : Clause) (data : RowData) : Bool :=
  clause.regex.isMatch (clause.target.extract data).toList != clause.negate

/-- The description of the patterns of some terms, in their order if they are several. -/
def describePatterns : List Term → String
  | [term] => term.patternDescription
  | terms => "THEN(" ++ String.intercalate "," (terms.map Term.patternDescription) ++ ")"

/-- The description of a condition. -/
def description (clause : Clause) : String :=
  let patterns := describePatterns clause.terms
  let target := match clause.target with
    | .row => "ROW(" ++ patterns ++ ")"
    | .column name offset =>
      "COLUMN(" ++ Text.quoted name ++ "=" ++ offset.repr ++ "," ++ patterns ++ ")"
  if clause.negate then "NOT(" ++ target ++ ")" else target

end Clause

/-- The rows to be kept: all of them, or those that satisfy every clause. -/
inductive Filter where
  | acceptAll
  | allOf (clauses : List Clause)

namespace Filter

/-- Whether a row is kept. -/
def accepts (filter : Filter) (data : RowData) : Bool :=
  match filter with
  | .acceptAll => true
  | .allOf clauses => clauses.all (·.holds data)

/-- Whether every row is kept, whatever it holds. -/
def acceptsAll : Filter → Bool
  | .acceptAll => true
  | .allOf _ => false

/-- The clauses of a filter. -/
def toList : Filter → List Clause
  | .acceptAll => []
  | .allOf clauses => clauses

/-- The description of a filter. -/
def description : Filter → String
  | .acceptAll => "TRUE"
  | .allOf clauses =>
    "AND(" ++ String.intercalate "," (clauses.map Clause.description) ++ ")"

end Filter
end RowQuery
