import RowQuery.Row.Data

/-!
Delimited tables.

* `Table.parse`: a table read from text.
* `Table.directory`: the columns of a table.
* `Table.join`: a row written as a line.

Each delimiter ends a cell: quotes mean nothing, and rows may have different lengths.
-/
namespace RowQuery

/-- A table: its delimiter, the cells of its header if it has one, and the cells of its rows. -/
structure Table where
  delimiter : Char
  header : Option (List String)
  rows : Rows
deriving DecidableEq, Repr

namespace Table

/-- The cells of a line. -/
def cells (delimiter : Char) (line : List Char) : List String :=
  (Text.split delimiter line).map String.ofList

/-- Reads a table. Blank lines count for nothing; the first line left is the header, if there is to
be one. -/
def parse (text : String) (delimiter : Char) (hasHeader : Bool) : Table :=
  let lines := (Text.lines text.toList).filter fun line => !(Text.trim line).isEmpty
  let lines := lines.map (cells delimiter)
  if hasHeader then { delimiter, header := lines.head?, rows := lines.tail }
  else { delimiter, header := none, rows := lines }

/-- The number of columns: the width of the header, or of the widest row if there is none. -/
def width (table : Table) : Nat :=
  match table.header with
  | some header => header.length
  | none => (table.rows.map List.length).foldl Nat.max 0

/-- The names of the columns: the cells of the header. Where there is no header or its cell is blank,
the name is the index, counted from 1. -/
def columnNames (table : Table) : List String :=
  match table.header with
  | some header =>
    header.zipIdx.map fun (cell, i) =>
      let name := Text.trimmed cell
      if name.isEmpty then (i + 1).repr else name
  | none => (List.range table.width).map fun i => (i + 1).repr

/-- The columns of the table. -/
def directory (table : Table) : Except DirectoryError Directory :=
  Directory.ofNames table.columnNames

/-- A row written as a line. -/
def join (table : Table) (cells : List String) : String :=
  String.intercalate (String.singleton table.delimiter) cells

end Table
end RowQuery
