/-!
The values of TOML documents and the tables they are gathered in.

* `Toml.Value`: the values.
* `Toml.Fields`: the fields of a table, in the order in which they were first named.
* `Toml.Fields.change`: a change of the table that a path of keys leads to.
* `Toml.Fields.insert?`: a field named by a dotted key.
* `Toml.Fields.open?`, `Toml.Fields.append?`: a table and a row of an array of tables, as a header
  asks for them.

A field is given once, and a table is defined in one place; what breaks this has no value.
-/
namespace RowQuery.Toml

/-- How a table came about. What may still be added to it depends on it. -/
inductive Origin where
  /-- It has a header of its own, or is the document. -/
  | header
  /-- It stands on the way to a table with a header. -/
  | way
  /-- It stands on the way of a dotted key. -/
  | dotted
  /-- It is written as a value. -/
  | inline
deriving DecidableEq, Repr

/-- Values. Floating-point numbers and times are kept as they are written. -/
inductive Value where
  | string (text : String)
  | integer (n : Int)
  | float (text : String)
  | boolean (b : Bool)
  | time (text : String)
  | array (items : List Value)
  | table (origin : Origin) (fields : List (String × Value))
  /-- An array of tables with headers. -/
  | tables (rows : List (List (String × Value)))
deriving Inhabited

/-- The fields of a table. -/
abbrev Fields := List (String × Value)

namespace Fields

/-- The value of a field. -/
def get? (fields : Fields) (key : String) : Option Value := fields.lookup key

/-- The fields with a value set, in place of the one before. -/
def set (key : String) (value : Value) : Fields → Fields
  | [] => [(key, value)]
  | (k, v) :: rest => if k = key then (key, value) :: rest else (k, v) :: set key value rest

theorem get?_set_self (fields : Fields) (key : String) (value : Value) :
    (fields.set key value).get? key = some value := by
  induction fields with
  | nil => simp [set, get?]
  | cons field rest ih =>
    obtain ⟨k, v⟩ := field
    by_cases h : k = key
    · simp [set, get?, h]
    · have : (key == k) = false := by simpa using Ne.symm h
      simpa [set, get?, h, List.lookup_cons, this] using ih

theorem get?_set_ne (fields : Fields) {key other : String} (value : Value) (h : other ≠ key) :
    (fields.set key value).get? other = fields.get? other := by
  have hk : (other == key) = false := by simpa using h
  induction fields with
  | nil => simp [set, get?, List.lookup_cons, hk]
  | cons field rest ih =>
    obtain ⟨k, v⟩ := field
    simp only [get?] at ih
    by_cases e : k = key
    · simp [set, get?, e, List.lookup_cons, hk]
    · simp [set, get?, e, List.lookup_cons, ih]

/-- Changes the table that a path leads to. Tables that are missing on the way are made, with the
origin `missing`; of an array of tables the last row is meant. A path leads into no value, and a
path of a dotted key into no table with a header. -/
def change (missing : Origin) (f : Origin → Fields → Option Fields) :
    List String → Origin → Fields → Option Fields
  | [], origin, fields => f origin fields
  | key :: path, _, fields =>
    match fields.get? key with
    | none => do
      let inner ← change missing f path missing []
      return fields.set key (.table missing inner)
    | some (.table origin inner) =>
      if origin = .inline ∨ (missing = .dotted ∧ origin = .header) then none
      else do
        let inner ← change missing f path origin inner
        return fields.set key (.table origin inner)
    | some (.tables rows) =>
      match rows.getLast? with
      | none => none
      | some row => do
        let row ← change missing f path .header row
        return fields.set key (.tables (rows.dropLast ++ [row]))
    | some _ => none

/-- The fields with a new one. -/
def add? (key : String) (value : Value) (fields : Fields) : Option Fields :=
  match fields.get? key with
  | none => some (fields.set key value)
  | some _ => none

/-- The fields with a new one whose key is dotted: the path before its last part, and that part. The
table that it goes into must come from a dotted key itself. -/
def insert? (path : List String) (key : String) (value : Value) (fields : Fields) : Option Fields :=
  fields.change .dotted (fun origin inner =>
    if path = [] ∨ origin = .dotted then inner.add? key value else none) path .header

/-- The fields with a table that a header defines. A table that stands on the way to others may be
defined later than they are. -/
def open? (path : List String) (key : String) (fields : Fields) : Option Fields :=
  fields.change .way (fun _ inner =>
    match inner.get? key with
    | none => some (inner.set key (.table .header []))
    | some (.table .way defined) => some (inner.set key (.table .header defined))
    | some _ => none) path .header

/-- The fields with a new row of an array of tables. -/
def append? (path : List String) (key : String) (fields : Fields) : Option Fields :=
  fields.change .way (fun _ inner =>
    match inner.get? key with
    | none => some (inner.set key (.tables [[]]))
    | some (.tables rows) => some (inner.set key (.tables (rows ++ [[]])))
    | some _ => none) path .header

end Fields
end RowQuery.Toml
