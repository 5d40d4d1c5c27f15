import RowQuery.Unicode.Property

/-!
What version 17.0 of the standard adds to the tables, which hold version 16.0.

* `printable`, `graphemeExtend`, `alphabetic`, `alphanumeric`, `cased`, `caseIgnorable`: properties
  as of version 17.0.
* `lower`: lower case as of version 17.0.

What a pattern matches goes by the tables alone. Texts are shown, and put into lower case, by
version 17.0, which also says how the groups of a pattern may be named.
-/
namespace RowQuery.Unicode.Additions

/-- The new characters. -/
def members : Intervals := .ofTable
  ["88f c5c cdc 1acf-1add 1ae0-1aeb 20c1 2b96 a7ce-a7cf a7d2 a7d4 a7f1 fbc3-fbd2 fd90-fd91",
   "fdc8-fdce 10940-10959 10ec5-10ec7 10ed0-10ed8 10efa-10efb 11b60-11b67 11db0-11ddb 11de0-11de9",
   "16ea0-16eb8 16ebb-16ed3 16ff2-16ff6 187f8-187ff 18d09-18d1e 18d80-18df2 1ccfa-1ccfc",
   "1ceba-1ced0 1cee0-1cef0 1e6c0-1e6de 1e6e0-1e6f5 1e6fe-1e6ff 1f6d8 1f777-1f77a 1f8d0-1f8d8",
   "1fa54-1fa57 1fa8a 1fa8e 1fac8 1facd 1faea 1faef 1fbfa 2b73a-2b73f 2cea2-2cead 323b0-33479"]

/-- The new non-spacing marks. -/
def marks : Intervals := .ofTable
  ["1acf-1add 1ae0-1aeb 10efa-10efb 11b60 11b62-11b64 11b66 1e6e3 1e6e6 1e6ee-1e6ef 1e6f5"]

/-- The new letters and what the standard counts with them. -/
def letters : Intervals := .ofTable
  ["88f c5c cdc a7ce-a7cf a7d2 a7d4 a7f1 10940-10959 10ec5-10ec7 10efa-10efb 11b60-11b67",
   "11db0-11ddb 16ea0-16eb8 16ebb-16ed3 16ff2-16ff6 187f8-187ff 18d09-18d1e 18d80-18df2",
   "1e6c0-1e6de 1e6e0-1e6f5 1e6fe-1e6ff 2b73a-2b73f 2cea2-2cead 323b0-33479"]

/-- The new digits and other numbers. -/
def numbers : Intervals := .ofTable ["11de0-11de9 16ff4-16ff6"]

/-- The new characters that have case. -/
def casedLetters : Intervals := .ofTable ["a7ce-a7cf a7d2 a7d4 a7f1 16ea0-16eb8 16ebb-16ed3"]

/-- The new characters other than marks that the rules of case look past. -/
def modifiers : Intervals := .ofTable ["a7f1 10ec5 11dd9 16ff2-16ff3 1e6ff"]

/-- The new characters that have a lower-case partner. -/
def lowerTable : List String := ["a7ce>a7cf a7d2-a7d4/2>a7d3 16ea0-16eb8>16ebb"]

/-- The characters that have a printed form of their own. -/
def printable : CharSet := .union Property.printable (.table members)

/-- Characters that extend the grapheme before them. -/
def graphemeExtend : CharSet := .union Property.graphemeExtend (.table marks)

/-- Letters and what the standard counts with them. -/
def alphabetic : CharSet := .union Property.alphabetic (.table letters)

/-- Letters, digits and other numbers. -/
def alphanumeric : CharSet :=
  .unionAll [Property.alphanumeric, .table letters, .table numbers]

/-- Characters that have case. The version takes case from one older letter, that of the voiced
pharyngeal fricative. -/
def cased : CharSet := .diff (.union Property.cased (.table casedLetters)) (.single '\u0295')

/-- Characters that the rules of case look past. -/
def caseIgnorable : CharSet :=
  .unionAll [Property.caseIgnorable, .table marks, .table modifiers]

/-- The runs of new characters that have a lower-case partner. -/
def runs : List Casing.Run := Casing.runsOf lowerTable

/-- The lower-case partner of a character; a character without one is its own. -/
def lower (c : Char) : Char :=
  match runs.findSome? (·.image? c.toNat) with
  | some n => Char.ofNat n
  | none => Casing.lower c

end RowQuery.Unicode.Additions
