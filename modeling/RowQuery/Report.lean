import RowQuery.Json
import RowQuery.Query.Help
import RowQuery.Row.Evaluator
import RowQuery.Table

/-!
What is written about tables and filters, as text and as JSON.

* `Report.dimmed`, `Report.cyan`, `Report.heading`: text in colour.
* `Report.columnsText`, `Report.columnsJson`: the columns of a table.
* `Report.rowsText`, `Report.rowsJson`: the rows that were kept.
* `Report.explainText`, `Report.explainJson`: a filter and its clauses.
-/
namespace RowQuery.Report

/-! ## Colours -/

/-- Text between two control sequences. -/
def styled (on off s : String) : String := "\x1b[" ++ on ++ s ++ "\x1b[" ++ off

/-- Faint text, if colours are wanted. -/
def dimmed (colors : Bool) (s : String) : String := if colors then styled "2m" "0m" s else s

/-- Text in cyan, if colours are wanted. -/
def cyan (colors : Bool) (s : String) : String := if colors then styled "36m" "39m" s else s

/-- Bold text in green, if colours are wanted. -/
def heading (colors : Bool) (s : String) : String :=
  if colors then styled "1m" "0m" (styled "32m" "39m" s) else s

/-! ## Columns -/

/-- A column as JSON. -/
def columnJson (column : Column) : Json :=
  .obj ([("name", .str column.name)] ++
    Json.field? "full_name" (column.fullName.map .str) ++
    Json.field? "index" (column.index.map .num) ++
    [("position", .num column.position), ("offset", .num column.offset)])

/-- The columns as JSON. -/
def columnsJson (directory : Directory) : Json :=
  .obj [("columns", .arr (directory.columns.map columnJson))]

/-- One line of the list of columns. -/
def columnLine (offset index name : String) : String :=
  Help.padRight 7 offset ++ " " ++ Help.padRight 6 index ++ " " ++ name

/-- The list of columns. -/
def columnsText (directory : Directory) (colors : Bool) : String :=
  if directory.columns.isEmpty then "No columns found.\n"
  else
    dimmed colors (columnLine "Offset" "Index" "Name") ++ "\n" ++
      String.join (directory.columns.map fun column =>
        let name := match column.fullName with
          | some full => column.name ++ " (" ++ full ++ ")"
          | none => column.name
        columnLine column.offset.repr ((column.index.map Nat.repr).getD "") name ++ "\n")

/-! ## Rows -/

/-- The numbers and cells of the rows that were kept. -/
def keptRows (table : Table) (evaluation : Evaluation) : List (Nat × List String) :=
  evaluation.matchedRows.filterMap fun row => (table.rows[row]?).map fun cells => (row, cells)

/-- The rows that were kept, with the header before them. -/
def rowsText (table : Table) (evaluation : Evaluation) (colors : Bool) : String :=
  (match table.header with
    | some header => dimmed colors (table.join header) ++ "\n"
    | none => "") ++
    String.join ((keptRows table evaluation).map fun (_, cells) => table.join cells ++ "\n")

/-- A list of strings as JSON. -/
def stringsJson (items : List String) : Json := .arr (items.map .str)

/-- The rows that were kept as JSON, each with its number. -/
def rowsJson (query : String) (filter : Filter) (table : Table) (directory : Directory)
    (evaluation : Evaluation) : Json :=
  .obj [("query", .str query), ("predicate", .str filter.description),
    ("matched", .num evaluation.matched), ("total", .num evaluation.total),
    ("columns", stringsJson directory.names),
    ("rows", .arr ((keptRows table evaluation).map fun (row, cells) =>
      .obj [("row", .num row), ("cells", stringsJson cells)]))]

/-- How many rows were kept, as JSON. -/
def countJson (query : String) (evaluation : Evaluation) : Json :=
  .obj [("query", .str query), ("matched", .num evaluation.matched),
    ("total", .num evaluation.total)]

/-- How many rows were kept. -/
def summary (evaluation : Evaluation) (colors : Bool) : String :=
  dimmed colors (evaluation.matched.repr ++ " of " ++ evaluation.total.repr ++
    (if evaluation.total = 1 then " row" else " rows") ++ " matched")

/-! ## Filters -/

/-- A term as JSON. -/
def termJson (term : Term) : Json :=
  .obj [("column", .ofOption term.column),
    ("kind", .str (match term.kind with
      | .word => "word"
      | .quote => "quote"
      | .regex => "regex")),
    ("text", .str term.text), ("negate", .bool term.negate)]

/-- A clause as JSON. -/
def clauseJson (clause : Clause) : Json :=
  .obj [("description", .str clause.description), ("regex", .str clause.regex.source),
    ("negate", .bool clause.negate), ("parsed", .arr (clause.terms.map termJson))]

/-- A filter as JSON. -/
def explainJson (query : String) (filter : Filter) : Json :=
  .obj [("query", .str query), ("predicate", .str filter.description),
    ("terms", .arr (filter.toList.map clauseJson))]

/-- A filter and its clauses, one a line. -/
def explainText (filter : Filter) (colors : Bool) : String :=
  filter.description ++ "\n" ++
    String.join (filter.toList.map fun clause =>
      "  " ++ clause.description ++ "  " ++ cyan colors ("/" ++ clause.regex.source ++ "/") ++ "\n")

end RowQuery.Report
