import RowQuery.Unicode.Category.Members

/-!
Unicode general categories.

* `Category`: the categories a character can have.
* `Category.members`: the characters of a category.
* `Category.names`: the names a category goes by, in lower case and without separators.
* `Category.groups`: the named unions of categories.
-/
namespace RowQuery.Unicode

/-- The general categories of characters. -/
inductive Category where
  | control
  | format
  | unassigned
  | privateUse
  | surrogate
  | lowercaseLetter
  | modifierLetter
  | otherLetter
  | titlecaseLetter
  | uppercaseLetter
  | spacingMark
  | enclosingMark
  | nonspacingMark
  | decimalNumber
  | letterNumber
  | otherNumber
  | connectorPunctuation
  | dashPunctuation
  | closePunctuation
  | finalPunctuation
  | initialPunctuation
  | otherPunctuation
  | openPunctuation
  | currencySymbol
  | modifierSymbol
  | mathSymbol
  | otherSymbol
  | lineSeparator
  | paragraphSeparator
  | spaceSeparator
deriving DecidableEq, Repr

namespace Category

/-- The characters of a category. -/
def members : Category → Intervals
  | .control => Members.control
  | .format => Members.format
  | .unassigned => Members.unassigned
  | .privateUse => Members.privateUse
  | .surrogate => Members.surrogate
  | .lowercaseLetter => Members.lowercaseLetter
  | .modifierLetter => Members.modifierLetter
  | .otherLetter => Members.otherLetter
  | .titlecaseLetter => Members.titlecaseLetter
  | .uppercaseLetter => Members.uppercaseLetter
  | .spacingMark => Members.spacingMark
  | .enclosingMark => Members.enclosingMark
  | .nonspacingMark => Members.nonspacingMark
  | .decimalNumber => Members.decimalNumber
  | .letterNumber => Members.letterNumber
  | .otherNumber => Members.otherNumber
  | .connectorPunctuation => Members.connectorPunctuation
  | .dashPunctuation => Members.dashPunctuation
  | .closePunctuation => Members.closePunctuation
  | .finalPunctuation => Members.finalPunctuation
  | .initialPunctuation => Members.initialPunctuation
  | .otherPunctuation => Members.otherPunctuation
  | .openPunctuation => Members.openPunctuation
  | .currencySymbol => Members.currencySymbol
  | .modifierSymbol => Members.modifierSymbol
  | .mathSymbol => Members.mathSymbol
  | .otherSymbol => Members.otherSymbol
  | .lineSeparator => Members.lineSeparator
  | .paragraphSeparator => Members.paragraphSeparator
  | .spaceSeparator => Members.spaceSeparator

/-- The names of a category. That of the surrogates has none, since it has no characters. -/
def names : Category → List String
  | .control => ["cc", "control", "cntrl"]
  | .format => ["cf", "format"]
  | .unassigned => ["cn", "unassigned"]
  | .privateUse => ["co", "privateuse"]
  | .surrogate => []
  | .lowercaseLetter => ["ll", "lowercaseletter"]
  | .modifierLetter => ["lm", "modifierletter"]
  | .otherLetter => ["lo", "otherletter"]
  | .titlecaseLetter => ["lt", "titlecaseletter"]
  | .uppercaseLetter => ["lu", "uppercaseletter"]
  | .spacingMark => ["mc", "spacingmark"]
  | .enclosingMark => ["me", "enclosingmark"]
  | .nonspacingMark => ["mn", "nonspacingmark"]
  | .decimalNumber => ["nd", "decimalnumber", "digit"]
  | .letterNumber => ["nl", "letternumber"]
  | .otherNumber => ["no", "othernumber"]
  | .connectorPunctuation => ["pc", "connectorpunctuation"]
  | .dashPunctuation => ["pd", "dashpunctuation"]
  | .closePunctuation => ["pe", "closepunctuation"]
  | .finalPunctuation => ["pf", "finalpunctuation"]
  | .initialPunctuation => ["pi", "initialpunctuation"]
  | .otherPunctuation => ["po", "otherpunctuation"]
  | .openPunctuation => ["ps", "openpunctuation"]
  | .currencySymbol => ["sc", "currencysymbol"]
  | .modifierSymbol => ["sk", "modifiersymbol"]
  | .mathSymbol => ["sm", "mathsymbol"]
  | .otherSymbol => ["so", "othersymbol"]
  | .lineSeparator => ["zl", "lineseparator"]
  | .paragraphSeparator => ["zp", "paragraphseparator"]
  | .spaceSeparator => ["zs", "spaceseparator"]

/-- Every category. -/
def all : List Category :=
  [.control, .format, .unassigned, .privateUse, .surrogate, .lowercaseLetter, .modifierLetter,
   .otherLetter, .titlecaseLetter, .uppercaseLetter, .spacingMark, .enclosingMark,
   .nonspacingMark, .decimalNumber, .letterNumber, .otherNumber, .connectorPunctuation,
   .dashPunctuation, .closePunctuation, .finalPunctuation, .initialPunctuation,
   .otherPunctuation, .openPunctuation, .currencySymbol, .modifierSymbol, .mathSymbol,
   .otherSymbol, .lineSeparator, .paragraphSeparator, .spaceSeparator]

theorem mem_all (c : Category) : c ∈ all := by cases c <;> decide

/-- The named unions of categories, each with its names. -/
def groups : List (List String × List Category) :=
  [(["lc", "casedletter"],
    [.lowercaseLetter, .titlecaseLetter, .uppercaseLetter]),
   (["l", "letter"],
    [.lowercaseLetter, .modifierLetter, .otherLetter, .titlecaseLetter, .uppercaseLetter]),
   (["m", "mark", "combiningmark"],
    [.spacingMark, .enclosingMark, .nonspacingMark]),
   (["n", "number"],
    [.decimalNumber, .letterNumber, .otherNumber]),
   (["p", "punctuation", "punct"],
    [.connectorPunctuation, .dashPunctuation, .closePunctuation, .finalPunctuation,
      .initialPunctuation, .otherPunctuation, .openPunctuation]),
   (["s", "symbol"],
    [.currencySymbol, .modifierSymbol, .mathSymbol, .otherSymbol]),
   (["z", "separator"],
    [.lineSeparator, .paragraphSeparator, .spaceSeparator]),
   (["c", "other"],
    [.control, .format, .unassigned, .privateUse, .surrogate])]

end Category
end RowQuery.Unicode
