import RowQuery.Unicode.Additions

/-!
Lower-casing of texts.

* `lowercase`: a text in lower case. A capital sigma at the end of a word becomes the final one.
-/
namespace RowQuery.Text

open Unicode

/-- Whether the first character that the rules of case do not look past has case. -/
def nextIsCased (s : List Char) : Bool :=
  match s.dropWhile Additions.caseIgnorable.mem with
  | [] => false
  | c :: _ => Additions.cased.mem c

/-- The lower-case form of a character that stands between two texts, the one before it reversed.
The dotted capital I is the one character whose form is two characters. -/
def lowercaseChar (before : List Char) (c : Char) (after : List Char) : List Char :=
  if c = 'Σ' then if nextIsCased before && !nextIsCased after then ['ς'] else ['σ']
  else if c = 'İ' then ['i', '\u0307']
  else [Additions.lower c]

/-- The lower-case form of a text that follows another one, which is reversed. -/
def lowercaseFrom (before : List Char) : List Char → List Char
  | [] => []
  | c :: r => lowercaseChar before c r ++ lowercaseFrom (c :: before) r

/-- The lower-case form of a text. -/
def lowercase (s : List Char) : List Char := lowercaseFrom [] s

end RowQuery.Text
