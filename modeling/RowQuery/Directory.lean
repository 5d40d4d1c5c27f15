import RowQuery.Text.Distance
import RowQuery.Text.Lowercase

/-!
The columns of a table that queries can name.

* `Column`: a column, with the names and the index that it goes by.
* `Directory.build`: the directory of declared columns, unless names or indices clash.
* `Directory.resolve?`: the column that a key stands for.
* `Directory.suggest?`: the name that is closest to a key.

Offset 0 of a row's data is the text of the whole row, so the first column has offset 1.
-/
namespace RowQuery

/-- A column that can be queried. `position` is the place of its cell in a raw row, and `offset` the
place of its text in the data of a row. -/
structure Column where
  name : String
  fullName : Option String
  index : Option Nat
  position : Nat
  offset : Nat
deriving DecidableEq, Repr

/-- The names of a column. -/
def Column.names (column : Column) : List String := column.name :: column.fullName.toList

/-- What is declared of a cell of the raw rows: that it is skipped, or the column it belongs to. -/
inductive Declaration where
  | skip
  | column (name : String) (fullName : Option String) (index : Option Nat)
deriving DecidableEq, Repr

/-- Why declared columns make no directory. -/
inductive DirectoryError where
  | duplicateColumn (name : String)
  | duplicateIndex (index : Nat)
  | emptyName (position : Nat)
deriving DecidableEq, Repr

/-- The text of an error. -/
def DirectoryError.message : DirectoryError → String
  | .duplicateColumn name => "duplicate column name: " ++ name
  | .duplicateIndex index => "duplicate column index: " ++ index.repr
  | .emptyName position => "column at position " ++ position.repr ++ " has an empty name"

/-- The columns of a table, in the order of their offsets. -/
structure Directory where
  columns : List Column
deriving DecidableEq, Repr

namespace Directory

/-- The directory without columns. -/
def empty : Directory := ⟨[]⟩

/-- Whether some column has the given name. -/
def hasName (directory : Directory) (name : String) : Bool :=
  directory.columns.any (·.names.contains name)

/-- Whether some column has the given index. -/
def hasIndex (directory : Directory) (index : Nat) : Bool :=
  directory.columns.any (·.index == some index)

/-- What keeps a column from being added: its name is empty, or a name of it is taken, or its index
is. -/
def conflict? (directory : Directory) (column : Column) : Option DirectoryError :=
  if column.name.isEmpty then some (.emptyName column.position)
  else
    match column.names.find? directory.hasName with
    | some name => some (.duplicateColumn name)
    | none =>
      match column.index with
      | none => none
      | some index => if directory.hasIndex index then some (.duplicateIndex index) else none

/-- The directory with one more column, of the cell at `position`. -/
def add (directory : Directory) (position : Nat) (name : String) (fullName : Option String)
    (index : Option Nat) : Except DirectoryError Directory :=
  let column : Column :=
    { name, fullName, index, position, offset := directory.columns.length + 1 }
  match directory.conflict? column with
  | some e => .error e
  | none => .ok ⟨directory.columns ++ [column]⟩

/-- Adds the columns declared for the cells from `position` on. -/
def buildFrom (position : Nat) (directory : Directory) :
    List Declaration → Except DirectoryError Directory
  | [] => .ok directory
  | .skip :: r => buildFrom (position + 1) directory r
  | .column name fullName index :: r => do
    let directory ← directory.add position name fullName index
    buildFrom (position + 1) directory r

/-- The directory of declared columns, one declaration for each cell of a raw row. -/
def build (declarations : List Declaration) : Except DirectoryError Directory :=
  buildFrom 0 empty declarations

/-- The directory in which every cell is a column, with the indices from 1 on. -/
def ofNames (names : List String) : Except DirectoryError Directory :=
  build (names.zipIdx.map fun (name, i) => .column name none (some (i + 1)))

/-- The index that a key of decimal digits stands for. Indices have 64 bits. -/
def indexOfKey? (key : String) : Option Nat :=
  let digits := key.toList
  if digits.isEmpty || !digits.all Char.isDigit then none
  else
    let n := digits.foldl (fun n d => n * 10 + (d.toNat - 48)) 0
    if n < 0x10000000000000000 then some n else none

/-- The column that a key stands for: the one of that name, else the one of that full name, else the
one whose index the key is. -/
def resolve? (directory : Directory) (key : String) : Option Column :=
  match directory.columns.find? (·.name == key) with
  | some column => some column
  | none =>
    match directory.columns.find? (·.fullName == some key) with
    | some column => some column
    | none =>
      match indexOfKey? key with
      | some index => directory.columns.find? (·.index == some index)
      | none => none

/-- The offset of the column that a key stands for. -/
def offset? (directory : Directory) (key : String) : Option Nat :=
  (directory.resolve? key).map (·.offset)

/-- The column at an offset. -/
def byOffset? (directory : Directory) (offset : Nat) : Option Column :=
  match offset with
  | 0 => none
  | i + 1 => directory.columns[i]?

/-- The names of the columns. -/
def names (directory : Directory) : List String := directory.columns.map (·.name)

/-- The greatest distance at which a name is suggested. -/
def maxDistance : Nat := 3

/-- The distance of a name from a key, without regard to case. -/
def distance (key name : String) : Nat :=
  Text.distance (Text.lowercase key.toList) (Text.lowercase name.toList)

/-- The first of the names that are closest to a key. -/
def closest? (key : String) : List String → Option String
  | [] => none
  | name :: r =>
    match closest? key r with
    | none => some name
    | some other => if distance key name ≤ distance key other then some name else some other

/-- The name closest to a key, if it is close and not the key itself. -/
def suggest? (directory : Directory) (key : String) : Option String :=
  match closest? key (directory.columns.flatMap Column.names) with
  | none => none
  | some name => if name ≠ key ∧ distance key name ≤ maxDistance then some name else none

end Directory
end RowQuery
