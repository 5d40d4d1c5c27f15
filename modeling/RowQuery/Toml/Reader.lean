import RowQuery.Toml.Quoted

/-!
Keys and values in TOML documents.

* `Toml.Reader`: a reading step, which takes text and leaves what follows.
* `Toml.key`: a key, whose parts have dots between them.
* `Toml.value`: a value.
* `Toml.pair`: a key and its value.
-/
namespace RowQuery.Toml

/-- A reading step: from text to a result and what follows it, or to nothing where the text does not
begin with what is read. -/
abbrev Reader := StateT (List Char) Option

namespace Reader

/-- The next character, which stays to be read. -/
def peek? : Reader (Option Char) := do return (← get).head?

/-- Reads a character. -/
def char (c : Char) : Reader Unit := do
  match ← get with
  | d :: rest => if d = c then set rest else failure
  | [] => failure

/-- Reads a character if it comes next, and says whether it did. -/
def eat (c : Char) : Reader Bool := do
  match ← get with
  | d :: rest => if d = c then set rest; return true else return false
  | [] => return false

/-- Reads characters as long as they satisfy a test. -/
def takeWhile (p : Char → Bool) : Reader (List Char) := do
  let s ← get
  set (s.dropWhile p)
  return s.takeWhile p

/-- Skips spaces and tabs. -/
def blanks : Reader Unit := do
  let _ ← takeWhile fun c => c = ' ' || c = '\t'

/-- The end of a line. -/
def lineEnd : Reader Unit := do
  match ← get with
  | '\n' :: rest => set rest
  | '\r' :: '\n' :: rest => set rest
  | _ => failure

/-- Skips a comment, if there is one. -/
def comment : Reader Unit := do
  if ← eat '#' then
    let _ ← takeWhile Quoted.isInLine

/-- The end of a line or of the document, behind white space and a comment. -/
def restOfLine : Reader Unit := do
  blanks
  comment
  if (← get).isEmpty then return () else lineEnd

/-- What follows white space, line ends and comments; the flag says that a comment is under way. -/
def gapFrom : Bool → List Char → Option (List Char)
  | _, '\n' :: r => gapFrom false r
  | _, '\r' :: '\n' :: r => gapFrom false r
  | true, c :: r => if Quoted.isInLine c then gapFrom true r else none
  | false, c :: r =>
    if c = ' ' ∨ c = '\t' then gapFrom false r
    else if c = '#' then gapFrom true r
    else some (c :: r)
  | _, [] => some []

/-- Skips white space, line ends and comments. -/
def gap : Reader Unit := do
  match gapFrom false (← get) with
  | some rest => set rest
  | none => failure

end Reader

open Reader

/-- Keys have fewer parts than this, and values stand in fewer values than this. -/
def depthLimit : Nat := 80

/-! ## Keys -/

/-- Whether a character may stand in a key without quotes. -/
def isBareKey (c : Char) : Bool := c.isAlphanum || c = '_' || c = '-'

/-- One part of a key. -/
def keyPart : Reader String := do
  match Quoted.readLine (← get) with
  | some (text, rest) =>
    set rest
    return String.ofList text
  | none =>
    let word ← takeWhile isBareKey
    if word.isEmpty then failure else return String.ofList word

/-- The parts of a key, at most as many as given. -/
def keyParts : Nat → Reader (List String)
  | 0 => failure
  | count + 1 => do
    blanks
    let part ← keyPart
    blanks
    if ← eat '.' then return part :: (← keyParts count) else return [part]

/-- A key: the path before its last part, and that part. -/
def key : Reader (List String × String) := do
  let parts ← keyParts (depthLimit - 1)
  match parts.getLast? with
  | some last => return (parts.dropLast, last)
  | none => failure

/-! ## Values -/

/-- Whether a character may stand in a number, a truth value or a time. -/
def isWord (c : Char) : Bool := c.isAlphanum || c = '_' || c = '-' || c = '+' || c = '.' || c = ':'

/-- A number, a truth value or a time. A date and a time of day may have a space between them. -/
def word : Reader Value := do
  let first ← takeWhile isWord
  match ← get with
  | ' ' :: c :: rest =>
    if Scalar.isDate first ∧ c.isDigit then
      set (c :: rest)
      let second ← takeWhile isWord
      if Scalar.isZonedTime second then
        return .time (String.ofList (first ++ ' ' :: second))
      else failure
    else StateT.lift (Scalar.value? first)
  | _ => StateT.lift (Scalar.value? first)

/-- A value that holds no other values. -/
def scalar : Reader Value := do
  match Quoted.read (← get) with
  | some (text, rest) =>
    set rest
    return .string (String.ofList text)
  | none => word

/-- The items of an array, at most as many as given, behind the opening bracket. -/
def items (item : Reader Value) : Nat → Reader (List Value)
  | 0 => failure
  | count + 1 => do
    gap
    if ← eat ']' then return []
    else
      let first ← item
      gap
      if ← eat ',' then return first :: (← items item count)
      else
        char ']'
        return [first]

/-- A key and its value on one line. -/
def pair (item : Reader Value) : Reader ((List String × String) × Value) := do
  let name ← key
  char '='
  blanks
  let value ← item
  return (name, value)

/-- The fields of a table written as a value, at most as many as given, added to those before. No
comma stands before the closing brace. -/
def fields (item : Reader Value) : Nat → Fields → Reader Fields
  | 0, _ => failure
  | count + 1, before => do
    let ((path, name), value) ← pair item
    let after ← StateT.lift (before.insert? path name value)
    blanks
    if ← eat ',' then fields item count after
    else
      char '\x7d'
      return after

/-- An array or a table written as a value. -/
def compound (item : Reader Value) : Reader Value := do
  let count := (← get).length
  if ← eat '[' then return .array (← items item count)
  else
    char '\x7b'
    blanks
    if ← eat '\x7d' then return .table .inline []
    else return .table .inline (← fields item count [])

/-- A value that stands in at most so many others. -/
def value : Nat → Reader Value
  | 0 => scalar
  | depth + 1 => do
    match ← peek? with
    | some '[' => compound (value depth)
    | some '\x7b' => compound (value depth)
    | _ => scalar

end RowQuery.Toml
