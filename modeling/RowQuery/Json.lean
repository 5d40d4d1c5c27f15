import RowQuery.Text.Quoted

/-!
JSON values and their written form.

* `Json`: values, objects with their fields in the order given.
* `Json.compact`: the form on one line without spaces.
* `Json.pretty`: the form with one item a line, indented by two spaces.
-/
namespace RowQuery

/-- JSON values whose numbers are natural. -/
inductive Json where
  | null
  | bool (b : Bool)
  | num (n : Nat)
  | str (s : String)
  | arr (items : List Json)
  | obj (fields : List (String × Json))
deriving Inhabited

namespace Json

/-- A character within a string. Characters beyond the basic Latin ones stay as they are. -/
def escapeChar (c : Char) : List Char :=
  if c = '"' then ['\\', '"']
  else if c = '\\' then ['\\', '\\']
  else if c = '\n' then ['\\', 'n']
  else if c = '\r' then ['\\', 'r']
  else if c = '\t' then ['\\', 't']
  else if c = '\x08' then ['\\', 'b']
  else if c = '\x0c' then ['\\', 'f']
  else if c.toNat < 0x10 then ['\\', 'u', '0', '0', '0'] ++ Text.hexDigits c.toNat
  else if c.toNat < 0x20 then ['\\', 'u', '0', '0'] ++ Text.hexDigits c.toNat
  else [c]

/-- A string in quotes. -/
def quote (s : String) : String := "\"" ++ String.ofList (s.toList.flatMap escapeChar) ++ "\""

mutual

/-- The form on one line. -/
def compact : Json → String
  | .null => "null"
  | .bool b => if b then "true" else "false"
  | .num n => n.repr
  | .str s => quote s
  | .arr items => "[" ++ compactItems items ++ "]"
  | .obj fields => "\x7b" ++ compactFields fields ++ "\x7d"

/-- Items on one line. -/
def compactItems : List Json → String
  | [] => ""
  | [a] => a.compact
  | a :: r => a.compact ++ "," ++ compactItems r

/-- Fields on one line. -/
def compactFields : List (String × Json) → String
  | [] => ""
  | [(k, a)] => quote k ++ ":" ++ a.compact
  | (k, a) :: r => quote k ++ ":" ++ a.compact ++ "," ++ compactFields r

end

/-- A line end and the space before a line at the given depth. -/
def newline (depth : Nat) : String := "\n" ++ String.ofList (List.replicate (2 * depth) ' ')

mutual

/-- The form with one item a line, at the given depth. -/
def prettyAt (depth : Nat) : Json → String
  | .null => "null"
  | .bool b => if b then "true" else "false"
  | .num n => n.repr
  | .str s => quote s
  | .arr [] => "[]"
  | .arr (a :: r) => "[" ++ prettyItems (depth + 1) (a :: r) ++ newline depth ++ "]"
  | .obj [] => "\x7b\x7d"
  | .obj (f :: r) => "\x7b" ++ prettyFields (depth + 1) (f :: r) ++ newline depth ++ "\x7d"

/-- Items, each on a line of its own. -/
def prettyItems (depth : Nat) : List Json → String
  | [] => ""
  | [a] => newline depth ++ prettyAt depth a
  | a :: r => newline depth ++ prettyAt depth a ++ "," ++ prettyItems depth r

/-- Fields, each on a line of its own. -/
def prettyFields (depth : Nat) : List (String × Json) → String
  | [] => ""
  | [(k, a)] => newline depth ++ quote k ++ ": " ++ prettyAt depth a
  | (k, a) :: r =>
    newline depth ++ quote k ++ ": " ++ prettyAt depth a ++ "," ++ prettyFields depth r

end

/-- The form with one item a line. -/
def pretty (value : Json) : String := prettyAt 0 value

/-- The value of an optional string. -/
def ofOption : Option String → Json
  | none => .null
  | some s => .str s

/-- The field of an optional value; there is none without a value. -/
def field? (name : String) : Option Json → List (String × Json)
  | none => []
  | some value => [(name, value)]

end Json
end RowQuery
