import RowQuery.Directory
import RowQuery.Text.Blank

/-!
The texts of a row that filters look at.

* `Rows`: the raw cells of a table.
* `RowData`: the trimmed texts of a row's columns; together they make the text of the whole row.
* `RowData.ofRows`: the data of one row of a table.
-/
namespace RowQuery

/-- The raw cells of the rows of a table. -/
abbrev Rows := List (List String)

/-- The cell of a row at a position. -/
def Rows.cell? (rows : Rows) (row position : Nat) : Option String := do
  let cells ← rows[row]?
  cells[position]?

/-- The texts of the columns of a row. -/
structure RowData where
  fields : List String
deriving DecidableEq, Repr

namespace RowData

/-- The data of some cells. -/
def ofCells (cells : List String) : RowData := ⟨cells.map Text.trimmed⟩

/-- The data of a row, read from the cells of the directory's columns. A cell that is missing counts
as empty. -/
def ofRows (directory : Directory) (rows : Rows) (row : Nat) : RowData :=
  ofCells (directory.columns.map fun column => (rows.cell? row column.position).getD "")

/-- The text of the whole row: the texts of the columns with a space between them. -/
def wholeRow (data : RowData) : String := String.intercalate " " data.fields

/-- The text at an offset; offset 0 is the whole row. -/
def get? (data : RowData) (offset : Nat) : Option String :=
  match offset with
  | 0 => some data.wholeRow
  | i + 1 => data.fields[i]?

/-- The number of columns. -/
def columnCount (data : RowData) : Nat := data.fields.length

end RowData
end RowQuery
