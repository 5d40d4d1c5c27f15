import RowQuery.Text.Blank
import RowQuery.Unicode.Intervals

/-!
The settings of a pattern and the characters that count under them.

* `Flags`: what `(?imsURux)` switches.
* `skip`, `significant`: a pattern without the white space and comments that it may ignore.
* `decimal?`, `hexValue`: numbers in patterns.
-/
namespace RowQuery.Regex

/-! ## Flags and white space -/

/-- The settings in force at a place of a pattern. -/
structure Flags where
  caseInsensitive : Bool
  multiLine : Bool
  dotAll : Bool
  swapGreed : Bool
  unicode : Bool
  crlf : Bool
  ignoreSpace : Bool
deriving DecidableEq, Repr

/-- The settings at the start of a pattern. -/
def Flags.default : Flags :=
  { caseInsensitive := false, multiLine := false, dotAll := false, swapGreed := false
    unicode := true, crlf := false, ignoreSpace := false }

/-- Switches the setting of a letter; other letters name none. -/
def Flags.put? (flags : Flags) (letter : Char) (on : Bool) : Option Flags :=
  match letter with
  | 'i' => some { flags with caseInsensitive := on }
  | 'm' => some { flags with multiLine := on }
  | 's' => some { flags with dotAll := on }
  | 'U' => some { flags with swapGreed := on }
  | 'u' => some { flags with unicode := on }
  | 'R' => some { flags with crlf := on }
  | 'x' => some { flags with ignoreSpace := on }
  | _ => none

/-- Drops white space and comments. A comment runs from `#` to the end of its line. -/
def skipFrom (comment : Bool) : List Char → List Char
  | [] => []
  | c :: r =>
    if comment then skipFrom (c != '\n') r
    else if Text.isBlank c then skipFrom false r
    else if c = '#' then skipFrom true r
    else c :: r

/-- Drops white space and comments if the pattern ignores them. -/
def skip (ignoreSpace : Bool) (s : List Char) : List Char :=
  if ignoreSpace then skipFrom false s else s

/-- The characters that count, each with what follows it. -/
def significantFrom (ignoreSpace comment : Bool) : List Char → List (Char × List Char)
  | [] => []
  | c :: r =>
    if ignoreSpace && comment then significantFrom ignoreSpace (c != '\n') r
    else if ignoreSpace && Text.isBlank c then significantFrom ignoreSpace false r
    else if ignoreSpace && c = '#' then significantFrom ignoreSpace true r
    else (c, r) :: significantFrom ignoreSpace false r

/-- The characters that count, each with what follows it. -/
def significant (ignoreSpace : Bool) (s : List Char) : List (Char × List Char) :=
  significantFrom ignoreSpace false s

/-- The next character that counts in a set, for telling whether a hyphen makes a range. The first
character that is not blank after a `#` counts, though it is part of a comment. -/
def peekFrom (comment : Bool) : List Char → Option Char
  | [] => none
  | c :: r =>
    if Text.isBlank c then peekFrom comment r
    else if !comment && c = '#' then peekFrom true r
    else some c

/-- The character after a hyphen in a set, for telling whether the hyphen makes a range. -/
def peek (ignoreSpace : Bool) (s : List Char) : Option Char :=
  if ignoreSpace then peekFrom false s else s.head?

/-! ## Numbers -/

/-- Whether a character is a hexadecimal digit. -/
def isHex (c : Char) : Bool :=
  ('0' ≤ c && c ≤ '9') || ('a' ≤ c && c ≤ 'f') || ('A' ≤ c && c ≤ 'F')

/-- The value of hexadecimal digits. -/
def hexValue (digits : List Char) : Nat := Unicode.Intervals.hex (digits.map Char.toLower)

/-- The character of a code point. Surrogates and numbers beyond the last code point have none. -/
def scalar? (n : Nat) : Option Char :=
  if n < 0xd800 || (0xdfff < n && n < 0x110000) then some (Char.ofNat n) else none

/-- A count of a repetition, with white space around it. Counts have 32 bits. -/
def decimal? (ignoreSpace : Bool) (s : List Char) : Option (Nat × List Char) :=
  let digits := (significant ignoreSpace (s.dropWhile Text.isBlank)).takeWhile (·.1.isDigit)
  match digits.getLast? with
  | none => none
  | some (_, r) =>
    let n := digits.foldl (fun n d => n * 10 + (d.1.toNat - 48)) 0
    if n < 0x100000000 then
      some (n, if ignoreSpace then skip true r else r.dropWhile Text.isBlank)
    else none

end RowQuery.Regex
