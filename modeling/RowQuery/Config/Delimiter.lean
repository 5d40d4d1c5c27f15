import RowQuery.Text.Lowercase
import RowQuery.Text.Quoted

/-!
Delimiters as they are written on the command line and in the configuration.

* `Delimiter.parse?`: the delimiter of a name or of a single character.
* `Delimiter.refusal`: what is said of any other text.
-/
namespace RowQuery.Delimiter

/-- The delimiter of a table where nothing else is said. -/
def default : Char := '\t'

/-- The delimiters that have names. Names are read without regard to case. -/
def named : List (String × Char) :=
  [("tab", '\t'), ("\\t", '\t'), ("comma", ','), ("pipe", '|'), ("semicolon", ';'), ("space", ' ')]

/-- What is said of a text that is no delimiter. -/
def refusal (s : String) : String :=
  "Invalid delimiter '" ++ Text.escapePlain s ++
    "'. Use a single character or one of: tab, comma, pipe, semicolon, space"

/-- The delimiter that a text stands for: a name, or a single character that ends no line. -/
def parse? (s : String) : Option Char :=
  match named.find? fun (name, _) => name == String.ofList (Text.lowercase s.toList) with
  | some (_, c) => some c
  | none =>
    match s.toList with
    | [c] => if c = '\n' ∨ c = '\r' then none else some c
    | _ => none

end RowQuery.Delimiter
