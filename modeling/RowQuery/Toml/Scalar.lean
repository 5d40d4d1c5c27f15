import RowQuery.Text.Blank
import RowQuery.Toml.Value

/-!
Numbers, truth values and times in TOML documents.

* `Toml.Scalar.digits?`: digits with underscores between them.
* `Toml.Scalar.integer?`, `Toml.Scalar.isFloat`: numbers.
* `Toml.Scalar.isDate`, `Toml.Scalar.isTime`, `Toml.Scalar.isMoment`: times.
* `Toml.Scalar.value?`: the value that a word stands for.

A word is taken whole: it stands for a value or for none.
-/
namespace RowQuery.Toml.Scalar

/-! ## Digits -/

/-- The digits of a number, which may have single underscores between them. -/
def digits? (isDigit : Char → Bool) (s : List Char) : Option (List Char) :=
  let groups := Text.split '_' s
  if groups.all fun group => !group.isEmpty && group.all isDigit then some groups.flatten else none

/-- The value of a hexadecimal digit. -/
def digitValue (c : Char) : Nat :=
  if c.isDigit then c.toNat - '0'.toNat
  else if 'a' ≤ c ∧ c ≤ 'f' then c.toNat - 'a'.toNat + 10
  else c.toNat - 'A'.toNat + 10

/-- The number that digits of a base write. -/
def ofDigits (base : Nat) (digits : List Char) : Nat :=
  digits.foldl (fun n c => base * n + digitValue c) 0

/-- Whether a character is a hexadecimal digit. -/
def isHexDigit (c : Char) : Bool := c.isDigit || ('a' ≤ c && c ≤ 'f') || ('A' ≤ c && c ≤ 'F')

/-- A sign, if there is one, and what follows it. -/
def sign (s : List Char) : Bool × List Char :=
  match s with
  | '+' :: r => (false, r)
  | '-' :: r => (true, r)
  | s => (false, s)

/-! ## Integers -/

/-- The digits of a decimal number without a sign. Only zero itself begins with a zero. -/
def decimal? (s : List Char) : Option (List Char) :=
  if s.head? = some '0' ∧ s ≠ ['0'] then none else digits? Char.isDigit s

/-- Integers fit into 64 bits. -/
def fits? (n : Int) : Option Int := 
  if -0x8000000000000000 ≤ n ∧ n < 0x8000000000000000 then some n else none

/-- A number of the given base. -/
def based? (base : Nat) (isDigit : Char → Bool) (s : List Char) : Option Int := do
  fits? (ofDigits base (← digits? isDigit s))

/-- The integer that a word stands for. -/
def integer? (s : List Char) : Option Int :=
  match s with
  | '0' :: 'x' :: r => based? 16 isHexDigit r
  | '0' :: 'o' :: r => based? 8 (fun c => '0' ≤ c && c ≤ '7') r
  | '0' :: 'b' :: r => based? 2 (fun c => c = '0' || c = '1') r
  | s => do
    let (negative, s) := sign s
    let n := ofDigits 10 (← decimal? s)
    fits? (if negative then -n else n)

/-! ## Floating-point numbers -/

/-- Whether the number `n · 10 ^ e` lies beyond the largest number of the 64-bit binary format by
half a step or more. -/
def overflows (n : Nat) (e : Int) : Bool :=
  let size : Int := (Nat.toDigits 10 n).length + e
  if n = 0 ∨ size < 300 then false
  else if 320 < size then true
  else
    let bound := Nat.pow 2 1024 - Nat.pow 2 970
    if 0 ≤ e then bound ≤ n * Nat.pow 10 e.toNat else bound * Nat.pow 10 (-e).toNat ≤ n

/-- The exponent of a number, after its letter. -/
def exponent? (s : List Char) : Option Int := do
  let (negative, s) := sign s
  let n := ofDigits 10 (← digits? Char.isDigit s)
  return if negative then -n else n

/-- The digits after the point and the exponent of what follows the digits before the point. One of
the two must be there. -/
def tail? (s : List Char) : Option (List Char × Int) :=
  let isMark (c : Char) : Bool := c = 'e' || c = 'E'
  match s with
  | '.' :: r => do
    let places ← digits? Char.isDigit (r.takeWhile fun c => !isMark c)
    match r.dropWhile fun c => !isMark c with
    | [] => return (places, 0)
    | _ :: r => return (places, ← exponent? r)
  | c :: r => if isMark c then (exponent? r).map ([], ·) else none
  | [] => none

/-- Whether a word is a floating-point number: a decimal number with places or an exponent, not too
large, or one of the words for what is no number or not finite. -/
def isFloat (s : List Char) : Bool :=
  let (negative, s) := sign s
  if s = ['i', 'n', 'f'] ∨ s = ['n', 'a', 'n'] then true
  else
    let isWhole (c : Char) : Bool := c.isDigit || c = '_'
    match decimal? (s.takeWhile isWhole), tail? (s.dropWhile isWhole) with
    | some whole, some (places, e) =>
      negative || !overflows (ofDigits 10 (whole ++ places)) (e - places.length)
    | _, _ => false

/-! ## Times -/

/-- The number that a fixed count of digits writes, if it lies between two bounds. -/
def field? (low high : Nat) (s : List Char) : Option Nat :=
  if s.all Char.isDigit ∧ low ≤ ofDigits 10 s ∧ ofDigits 10 s ≤ high then some (ofDigits 10 s)
  else none

/-- The number of days of a month. -/
def daysIn (year month : Nat) : Nat :=
  if month = 2 then if year % 4 = 0 ∧ (year % 100 ≠ 0 ∨ year % 400 = 0) then 29 else 28
  else if month = 4 ∨ month = 6 ∨ month = 9 ∨ month = 11 then 30
  else 31

/-- Whether a word is a date, such as `1979-05-27`. -/
def isDate (s : List Char) : Bool :=
  match s with
  | [a, b, c, d, '-', e, f, '-', g, h] =>
    match field? 0 9999 [a, b, c, d], field? 1 12 [e, f] with
    | some year, some month => (field? 1 (daysIn year month) [g, h]).isSome
    | _, _ => false
  | _ => false

/-- Whether text is an hour and a minute. -/
def isHourMinute (s : List Char) : Bool :=
  match s with
  | [a, b, ':', c, d] => (field? 0 23 [a, b]).isSome && (field? 0 59 [c, d]).isSome
  | _ => false

/-- What follows the seconds of a time without its fraction. A point with no digit behind it is no
fraction. -/
def dropFraction (s : List Char) : List Char :=
  match s with
  | '.' :: d :: r => if d.isDigit then r.dropWhile Char.isDigit else s
  | s => s

/-- What follows the time that a word begins with, such as `07:32:00.5`. There may be a leap
second. -/
def afterTime? (s : List Char) : Option (List Char) :=
  match s.drop 5 with
  | ':' :: e :: f :: r =>
    if isHourMinute (s.take 5) ∧ (field? 0 60 [e, f]).isSome then some (dropFraction r) else none
  | _ => none

/-- Whether a word is a time of day. -/
def isTime (s : List Char) : Bool := afterTime? s = some []

/-- Whether a word is a distance from universal time, or empty. -/
def isOffset (s : List Char) : Bool :=
  match s with
  | [] => true
  | [c] => c = 'Z' || c = 'z'
  | c :: r => (c = '+' || c = '-') && isHourMinute r

/-- Whether a word is a time of day, with or without a distance from universal time. -/
def isZonedTime (s : List Char) : Bool :=
  match afterTime? s with
  | some r => isOffset r
  | none => false

/-- Whether a word is a date and a time with a letter `T` between them. -/
def isMoment (s : List Char) : Bool :=
  match s.drop 10 with
  | c :: r => (c = 'T' || c = 't') && isDate (s.take 10) && isZonedTime r
  | [] => false

/-! ## Words -/

/-- The value that a word stands for. -/
def value? (s : List Char) : Option Value :=
  if s = ['t', 'r', 'u', 'e'] then some (.boolean true)
  else if s = ['f', 'a', 'l', 's', 'e'] then some (.boolean false)
  else if isDate s ∨ isTime s ∨ isMoment s then some (.time (String.ofList s))
  else if isFloat s then some (.float (String.ofList s))
  else (integer? s).map .integer

end RowQuery.Toml.Scalar
