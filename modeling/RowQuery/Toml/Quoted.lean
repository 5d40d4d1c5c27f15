import RowQuery.Toml.Scalar

/-!
Strings in TOML documents.

* `Toml.Quoted.basic`, `Toml.Quoted.literal`: strings on one line, with and without escapes.
* `Toml.Quoted.basicBlock`, `Toml.Quoted.literalBlock`: strings over several lines.
* `Toml.Quoted.read`: a string of any of the four forms.

Each reads from behind the opening quotes and gives the text and what follows the closing quotes.
-/
namespace RowQuery.Toml.Quoted

/-- Whether a character may stand in a line: a tab, or anything that is no control character of the
basic Latin ones. -/
def isInLine (c : Char) : Bool := c = '\t' || (' ' ≤ c && c ≠ '\x7f')

/-- The character of a code point given by hexadecimal digits. -/
def codePoint? (digits : List Char) : Option Char :=
  let n := Scalar.ofDigits 16 digits
  if digits.all Scalar.isHexDigit ∧ n.isValidChar then some (Char.ofNat n) else none

/-- The character that a letter after a backslash stands for. -/
def escape? (c : Char) : Option Char :=
  [('b', '\x08'), ('f', '\x0c'), ('n', '\n'), ('r', '\r'), ('t', '\t'), ('"', '"'),
    ('\\', '\\')].lookup c

/-- A text with a character before it, and what follows the text. -/
def push (c : Char) (read : Option (List Char × List Char)) : Option (List Char × List Char) :=
  read.map fun (text, rest) => (c :: text, rest)

/-- A string on one line whose backslashes are escapes. -/
def basic : List Char → Option (List Char × List Char)
  | '"' :: r => some ([], r)
  | '\\' :: 'u' :: a :: b :: c :: d :: r => do push (← codePoint? [a, b, c, d]) (basic r)
  | '\\' :: 'U' :: a :: b :: c :: d :: e :: f :: g :: h :: r => do
    push (← codePoint? [a, b, c, d, e, f, g, h]) (basic r)
  | '\\' :: c :: r => do push (← escape? c) (basic r)
  | c :: r => if isInLine c then push c (basic r) else none
  | [] => none

/-- A string on one line that stands as it is written. -/
def literal : List Char → Option (List Char × List Char)
  | '\'' :: r => some ([], r)
  | c :: r => if isInLine c then push c (literal r) else none
  | [] => none

/-- The quotes that belong to a text over several lines and what follows the closing quotes, if text
that begins with a quote closes it. Three quotes close it, and up to two more may stand before
them. -/
def close? (quote : Char) (s : List Char) : Option (List Char × List Char) :=
  let n := (s.takeWhile (· = quote)).length
  if n < 3 then none else some (List.replicate (min n 5 - 3) quote, s.drop (min n 5))

/-- Whether a line ends here but for spaces and tabs. -/
def endsLine (s : List Char) : Bool :=
  match s.dropWhile fun c => c = ' ' || c = '\t' with
  | '\n' :: _ => true
  | '\r' :: '\n' :: _ => true
  | _ => false

/-- A string over several lines whose backslashes are escapes. A backslash at the end of a line
takes away the white space and line ends behind it; `skipping` says that this is under way. -/
def basicBlockFrom : Bool → List Char → Option (List Char × List Char)
  | skipping, '\r' :: '\n' :: r =>
    if skipping then basicBlockFrom true r else push '\n' (basicBlockFrom false r)
  | _, '\\' :: 'u' :: a :: b :: c :: d :: r => do
    push (← codePoint? [a, b, c, d]) (basicBlockFrom false r)
  | _, '\\' :: 'U' :: a :: b :: c :: d :: e :: f :: g :: h :: r => do
    push (← codePoint? [a, b, c, d, e, f, g, h]) (basicBlockFrom false r)
  | _, '\\' :: c :: r =>
    if endsLine (c :: r) then basicBlockFrom true (c :: r)
    else do push (← escape? c) (basicBlockFrom false r)
  | skipping, c :: r =>
    if skipping ∧ (c = ' ' ∨ c = '\t' ∨ c = '\n') then basicBlockFrom true r
    else if c = '"' then
      match close? '"' (c :: r) with
      | some closed => some closed
      | none => push c (basicBlockFrom false r)
    else if isInLine c ∨ c = '\n' then push c (basicBlockFrom false r)
    else none
  | _, [] => none

/-- A string over several lines that stands as it is written. -/
def literalBlockFrom : List Char → Option (List Char × List Char)
  | '\r' :: '\n' :: r => push '\n' (literalBlockFrom r)
  | c :: r =>
    if c = '\'' then
      match close? '\'' (c :: r) with
      | some closed => some closed
      | none => push c (literalBlockFrom r)
    else if isInLine c ∨ c = '\n' then push c (literalBlockFrom r)
    else none
  | [] => none

/-- Text without the line end that it begins with. -/
def dropLineEnd : List Char → List Char
  | '\n' :: r => r
  | '\r' :: '\n' :: r => r
  | s => s

/-- A string over several lines whose backslashes are escapes. A line end right behind the opening
quotes does not count. -/
def basicBlock (s : List Char) : Option (List Char × List Char) :=
  basicBlockFrom false (dropLineEnd s)

/-- A string over several lines that stands as it is written. A line end right behind the opening
quotes does not count. -/
def literalBlock (s : List Char) : Option (List Char × List Char) :=
  literalBlockFrom (dropLineEnd s)

/-- A string on one line in either kind of quotes, the opening quote included. -/
def readLine : List Char → Option (List Char × List Char)
  | '"' :: r => basic r
  | '\'' :: r => literal r
  | _ => none

/-- A string of any form, the opening quotes included. -/
def read : List Char → Option (List Char × List Char)
  | '"' :: '"' :: '"' :: r => basicBlock r
  | '\'' :: '\'' :: '\'' :: r => literalBlock r
  | s => readLine s

end RowQuery.Toml.Quoted
