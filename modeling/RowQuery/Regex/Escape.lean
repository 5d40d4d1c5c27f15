import RowQuery.Regex.Flags
import RowQuery.Regex.Node
import RowQuery.Unicode.Query

/-!
What a single character or an escape stands for.

* `Primitive`: a literal, a class, a property or a condition.
* `isMeta`, `isEscapable`: the characters that may be written with a backslash for themselves.
* `escape?`: reads an escape.
-/
namespace RowQuery.Regex

open Unicode (CharSet)

/-- The sets of characters with an escape of one letter. -/
inductive Shorthand where
  | digit
  | space
  | word
deriving DecidableEq, Repr

/-- The set of a shorthand, of all characters or of the basic Latin ones. -/
def Shorthand.set (unicode : Bool) : Shorthand → CharSet
  | .digit => if unicode then Unicode.Property.digit else Unicode.Property.basicDigit
  | .space =>
    if unicode then .space else .ofIntervals [(0x09, 0x0d), (0x20, 0x20)]
  | .word => if unicode then Unicode.Property.word else Unicode.Property.basicWord

/-- What a single character or an escape stands for. A literal is `wide` if it was written as a
byte beyond the basic Latin ones. -/
inductive Primitive where
  | literal (c : Char) (wide : Bool)
  | dot
  | look (l : Look)
  | lineStart
  | lineEnd
  | boundary (kind : Boundary)
  | shorthand (kind : Shorthand) (negated : Bool)
  | property (query : Unicode.Query) (negated : Bool)

/-- The characters that have a meaning of their own somewhere in a pattern. -/
def isMeta (c : Char) : Bool :=
  ['\\', '.', '+', '*', '?', '(', ')', '|', '[', ']', '\x7b', '\x7d', '^', '$', '#', '&', '-',
    '~'].contains c

/-- The characters that may be written with a backslash for themselves. -/
def isEscapable (c : Char) : Bool :=
  isMeta c || (c.toNat < 0x80 && !c.isAlphanum && c != '<' && c != '>')

/-- The hexadecimal digits up to a closing brace, and what follows it. -/
def bracedHex? (digits : List Char) : List (Char × List Char) → Option (List Char × List Char)
  | [] => none
  | (c, r) :: more =>
    if c = '\x7d' then some (digits.reverse, r)
    else if isHex c then bracedHex? (c :: digits) more
    else none

/-- The character of hexadecimal digits in braces, after the opening brace. -/
def bracedCode? (ignoreSpace : Bool) (s : List Char) : Option (Primitive × List Char) := do
  let (digits, rest) ← bracedHex? [] (significant ignoreSpace s)
  if digits.isEmpty then none
  else
    let c ← scalar? (hexValue digits)
    return (.literal c false, rest)

/-- The character of hexadecimal digits, whose number depends on the letter of the escape. -/
def code? (ignoreSpace : Bool) (letter : Char) (s : List Char) :
    Option (Primitive × List Char) :=
  let count := if letter = 'x' then 2 else if letter = 'u' then 4 else 8
  let digits := (significant ignoreSpace s).take count
  if digits.length = count && digits.all (isHex ·.1) then do
    let c ← scalar? (hexValue (digits.map (·.1)))
    let (_, rest) ← digits.getLast?
    return (.literal c (letter = 'x' && 0x80 ≤ c.toNat), rest)
  else none

/-- The character of a hexadecimal escape, after its letter. -/
def hexEscape? (ignoreSpace : Bool) (letter : Char) (s : List Char) :
    Option (Primitive × List Char) :=
  match skip ignoreSpace s with
  | [] => none
  | c :: r =>
    if c = '\x7b' then bracedCode? ignoreSpace r else code? ignoreSpace letter (c :: r)

/-- The characters up to a closing brace, and what follows it. -/
def braced? (name : List Char) : List (Char × List Char) → Option (List Char × List Char)
  | [] => none
  | (c, r) :: more =>
    if c = '\x7d' then some (name.reverse, r) else braced? (c :: name) more

/-- The text before and after the first occurrence of `mark`. -/
def cutAt? (mark : List Char) (before : List Char) : List Char → Option (List Char × List Char)
  | [] => none
  | c :: r =>
    if mark.isPrefixOf (c :: r) then some (before.reverse, (c :: r).drop mark.length)
    else cutAt? mark (c :: before) r

/-- The question that the text in the braces of a property asks, and whether it is about the
characters outside the set. -/
def propertyQuery (text : List Char) (negated : Bool) : Primitive :=
  match cutAt? ['!', '='] [] text with
  | some (property, value) => .property (.valued property value) (!negated)
  | none =>
    match cutAt? [':'] [] text with
    | some (property, value) => .property (.valued property value) negated
    | none =>
      match cutAt? ['='] [] text with
      | some (property, value) => .property (.valued property value) negated
      | none => .property (.named text) negated

/-- A property of characters, after its letter. -/
def propertyEscape? (ignoreSpace negated : Bool) (s : List Char) :
    Option (Primitive × List Char) :=
  match skip ignoreSpace s with
  | [] => none
  | c :: r =>
    if c = '\x7b' then do
      let (text, rest) ← braced? [] (significant ignoreSpace r)
      return (propertyQuery text negated, rest)
    else if c = '\\' then none
    else some (.property (.named [c]) negated, r)

/-- The boundary of a name in braces. -/
def Boundary.ofName? (name : List Char) : Option Boundary :=
  if name = "start".toList then some .start
  else if name = "end".toList then some .stop
  else if name = "start-half".toList then some .startHalf
  else if name = "end-half".toList then some .stopHalf
  else none

/-- Whether a character may stand in the name of a boundary. -/
def isBoundaryChar (c : Char) : Bool := c.isAlpha || c = '-'

/-- A word boundary, after its letter. A brace followed by no letter is left to be read as a
count. -/
def boundaryEscape? (ignoreSpace : Bool) (s : List Char) : Option (Primitive × List Char) :=
  match s with
  | [] => some (.boundary .either, [])
  | c :: r =>
    if c = '\x7b' then
      match skip ignoreSpace r with
      | [] => none
      | d :: t =>
        if isBoundaryChar d then do
          let letters := (significant ignoreSpace (d :: t)).takeWhile (isBoundaryChar ·.1)
          let (_, rest) ← letters.getLast?
          let kind ← Boundary.ofName? (letters.map (·.1))
          match skip ignoreSpace rest with
          | [] => none
          | e :: rest => if e = '\x7d' then return (.boundary kind, rest) else none
        else some (.boundary .either, c :: r)
    else some (.boundary .either, c :: r)

/-- What an escape stands for, after its backslash. -/
def escape? (ignoreSpace : Bool) : List Char → Option (Primitive × List Char)
  | [] => none
  | c :: r =>
    if c = 'x' || c = 'u' || c = 'U' then hexEscape? ignoreSpace c r
    else if c = 'p' || c = 'P' then propertyEscape? ignoreSpace (c = 'P') r
    else if isEscapable c then some (.literal c false, r)
    else
      match c with
      | 'd' => some (.shorthand .digit false, r)
      | 'D' => some (.shorthand .digit true, r)
      | 's' => some (.shorthand .space false, r)
      | 'S' => some (.shorthand .space true, r)
      | 'w' => some (.shorthand .word false, r)
      | 'W' => some (.shorthand .word true, r)
      | 'a' => some (.literal '\x07' false, r)
      | 'f' => some (.literal '\x0c' false, r)
      | 't' => some (.literal '\t' false, r)
      | 'n' => some (.literal '\n' false, r)
      | 'r' => some (.literal '\r' false, r)
      | 'v' => some (.literal '\x0b' false, r)
      | 'A' => some (.look .textStart, r)
      | 'z' => some (.look .textEnd, r)
      | 'b' => boundaryEscape? ignoreSpace r
      | 'B' => some (.boundary .neither, r)
      | '<' => some (.boundary .start, r)
      | '>' => some (.boundary .stop, r)
      | _ => none

end RowQuery.Regex
