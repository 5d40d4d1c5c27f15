import RowQuery.Unicode.Additions

/-!
Texts in quotes, as descriptions and events show them.

* `quoteChar`: how one character is written between the quotes.
* `quote`: a text in quotes.
* `quoteList`: a list of texts.
* `escapePlain`: a text without quotes and with only basic Latin characters left as they are.
-/
namespace RowQuery.Text

open Unicode

/-- A number in hexadecimal, in lower case and without leading zeros. -/
def hexDigits (n : Nat) : List Char := Nat.toDigits 16 n

/-- A character written by its code point. -/
def codePoint (c : Char) : List Char := ['\\', 'u', '\x7b'] ++ hexDigits c.toNat ++ ['\x7d']

/-- Whether a character joins with the one before it and so is not seen by itself. The two halfwidth
sound marks of Japanese extend the letter before them, but have a place of their own. -/
def isJoining (c : Char) : Bool :=
  Additions.graphemeExtend.mem c && c != '\uff9e' && c != '\uff9f'

/-- Whether a character is shown as it is: it has a form of its own and does not join with the
character before it. -/
def isShown (c : Char) : Bool := !isJoining c && Additions.printable.mem c

/-- A character between quotes. -/
def quoteChar (c : Char) : List Char :=
  if c = '"' then ['\\', '"']
  else if c = '\\' then ['\\', '\\']
  else if c = '\n' then ['\\', 'n']
  else if c = '\r' then ['\\', 'r']
  else if c = '\t' then ['\\', 't']
  else if c = '\x00' then ['\\', '0']
  else if isShown c then [c]
  else codePoint c

/-- A text in quotes. -/
def quote (s : List Char) : List Char := '"' :: s.flatMap quoteChar ++ ['"']

/-- A string in quotes. -/
def quoted (s : String) : String := String.ofList (quote s.toList)

/-- A list of strings, each in quotes. -/
def quoteList (items : List String) : String :=
  "[" ++ String.intercalate ", " (items.map quoted) ++ "]"

/-- A character in a text without quotes: basic Latin characters with a printed form as they are,
all others escaped. -/
def escapeChar (c : Char) : List Char :=
  if c = '\t' then ['\\', 't']
  else if c = '\r' then ['\\', 'r']
  else if c = '\n' then ['\\', 'n']
  else if c = '\'' then ['\\', '\'']
  else if c = '"' then ['\\', '"']
  else if c = '\\' then ['\\', '\\']
  else if 0x20 ≤ c.toNat && c.toNat ≤ 0x7e then [c]
  else codePoint c

/-- A text with escapes. -/
def escapePlain (s : String) : String := String.ofList (s.toList.flatMap escapeChar)

end RowQuery.Text
