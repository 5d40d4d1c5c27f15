import RowQuery.Config.Basic
import RowQuery.Toml.Document

/-!
The configuration as a TOML document.

* `Config.parse?`: the configuration that a text sets.

Fields of other names count for nothing. A field whose value has the wrong type makes the whole
document wrong.
-/
namespace RowQuery.Config

open Toml (Value Fields)

/-- The field of a name as a value of some type; a field that is not there is not set. -/
def setting {α : Type} (read : Value → Option α) (fields : Fields) (name : String) :
    Option (Option α) :=
  match fields.get? name with
  | none => some none
  | some value => (read value).map some

/-- A text. -/
def text? : Value → Option String
  | .string text => some text
  | _ => none

/-- A truth value. -/
def flag? : Value → Option Bool
  | .boolean b => some b
  | _ => none

/-- The number of a version, which has 32 bits. -/
def version? : Value → Option Nat
  | .integer n => if 0 ≤ n ∧ n < 0x100000000 then some n.toNat else none
  | _ => none

/-- The settings for output: whether colours are wanted, and whether the number of rows kept is
told. They may also be given in this order, as the items of an array; of a time nothing is taken. -/
def output? : Value → Option (Option Bool × Option Bool)
  | .table _ fields => do
    return (← setting flag? fields "color", ← setting flag? fields "show_count")
  | .array (color :: showCount :: _) => do return (some (← flag? color), some (← flag? showCount))
  | .time _ => some (none, none)
  | _ => none

/-- The configuration that the fields of a document set. -/
def ofFields? (fields : Fields) : Option Config := do
  let _ ← setting version? fields "version"
  let delimiter ← setting text? fields "delimiter"
  let header ← setting flag? fields "header"
  let output ← setting output? fields "output"
  let (color, showCount) := output.getD (none, none)
  return { delimiter, header, color, showCount }

/-- The configuration that a text sets. -/
def parse? (text : String) : Option Config := Toml.parse? text >>= ofFields?

end RowQuery.Config
