import RowQuery.Toml.Reader

/-!
TOML documents.

* `Toml.Statement`: what one line of a document says.
* `Toml.Document`: the fields gathered so far and the table that is being filled.
* `Toml.parse?`: the fields of a document.
-/
namespace RowQuery.Toml

open Reader

/-- What one line of a document says. -/
inductive Statement where
  | nothing
  /-- A field of the table that is being filled. -/
  | field (path : List String) (key : String) (value : Value)
  /-- A header of a table. -/
  | table (path : List String) (key : String)
  /-- A header of a row of an array of tables. -/
  | row (path : List String) (key : String)

/-- A header, behind its first bracket. -/
def header : Reader Statement := do
  let isRow ← eat '['
  let (path, name) ← key
  char ']'
  if isRow then
    char ']'
    return .row path name
  else return .table path name

/-- What a line says. -/
def statement : Reader Statement := do
  blanks
  let said ← match ← peek? with
    | none => pure Statement.nothing
    | some '#' => pure .nothing
    | some '\n' => pure .nothing
    | some '\r' => pure .nothing
    | some '[' => do
      char '['
      header
    | some _ => do
      let ((path, name), value) ← pair (value (depthLimit - 1))
      pure (.field path name value)
  restOfLine
  return said

/-- A document as far as it is read: its fields, and the path of the table that is being filled. -/
structure Document where
  fields : Fields
  current : List String

namespace Document

/-- The document before the first line. -/
def empty : Document := { fields := [], current := [] }

/-- The document after a line. -/
def add? (document : Document) : Statement → Option Document
  | .nothing => some document
  | .field path key value => do
    let fields ← document.fields.change .way (fun _ inner => inner.insert? path key value)
      document.current .header
    return { document with fields }
  | .table path key => do
    return { fields := ← document.fields.open? path key, current := path ++ [key] }
  | .row path key => do
    return { fields := ← document.fields.append? path key, current := path ++ [key] }

/-- Reads lines up to the end of the text, at most as many as given. -/
def read? : Nat → Document → List Char → Option Document
  | _, document, [] => some document
  | 0, _, _ => none
  | count + 1, document, text =>
    match statement.run text with
    | some (said, rest) =>
      match document.add? said with
      | some document => read? count document rest
      | none => none
    | none => none

end Document

/-- The fields of a document. A byte order mark at its start does not count. -/
def parse? (text : String) : Option Fields :=
  let text := match text.toList with
    | '\ufeff' :: r => r
    | s => s
  (Document.read? text.length .empty text).map Document.fields

end RowQuery.Toml
