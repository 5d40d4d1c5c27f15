import RowQuery.Unicode.Category
import RowQuery.Unicode.CharSet
import RowQuery.Unicode.Property.Members

/-!
Binary properties of characters.

* The properties that the standard derives from general categories, by the standard's rules.
* `word`, `digit`: the characters of words and the decimal digits.
* `lookup?`: a property by its name.
-/
namespace RowQuery.Unicode.Property

/-- The characters of some categories. -/
def ofCategories (categories : List Category) : CharSet :=
  .unionAll (categories.map fun c => .table c.members)

/-- Letters. -/
def letter : CharSet :=
  ofCategories [.lowercaseLetter, .modifierLetter, .otherLetter, .titlecaseLetter, .uppercaseLetter]

/-- Combining marks. -/
def mark : CharSet := ofCategories [.spacingMark, .enclosingMark, .nonspacingMark]

/-- The lower-case letters of the basic Latin alphabet. -/
def basicLower : CharSet := .interval 0x61 0x7a

/-- The upper-case letters of the basic Latin alphabet. -/
def basicUpper : CharSet := .interval 0x41 0x5a

/-- The digits 0 to 9. -/
def basicDigit : CharSet := .interval 0x30 0x39

/-- Letters and what the standard counts with them. -/
def alphabetic : CharSet :=
  .layered (.union basicLower basicUpper)
    (.unionAll [letter, .table Category.letterNumber.members, .table Members.otherAlphabetic])

/-- Lower-case characters. -/
def lowercase : CharSet :=
  .layered basicLower
    (.union (.table Category.lowercaseLetter.members) (.table Members.otherLowercase))

/-- Upper-case characters. -/
def uppercase : CharSet :=
  .layered basicUpper
    (.union (.table Category.uppercaseLetter.members) (.table Members.otherUppercase))

/-- Characters that have case. -/
def cased : CharSet :=
  .layered (.union basicLower basicUpper)
    (.unionAll [lowercase, uppercase, .table Category.titlecaseLetter.members])

/-- Characters that the rules of case look past. -/
def caseIgnorable : CharSet :=
  .union (ofCategories [.nonspacingMark, .enclosingMark, .format, .modifierLetter, .modifierSymbol])
    (.table Members.midWord)

/-- Mathematical characters. -/
def math : CharSet :=
  .union (.table Category.mathSymbol.members) (.table Members.otherMath)

/-- Dashes. -/
def dash : CharSet :=
  .union (.table Category.dashPunctuation.members) (.table Members.otherDash)

/-- The hexadecimal digits of the basic Latin alphabet. -/
def asciiHexDigit : CharSet :=
  .ofIntervals [(0x30, 0x39), (0x41, 0x46), (0x61, 0x66)]

/-- Characters that may start an identifier. -/
def idStart : CharSet :=
  .diff
    (.unionAll [letter, .table Category.letterNumber.members, .table Members.otherIdStart])
    (.union (.table Members.patternSyntax) (.table Members.patternWhiteSpace))

/-- Characters that may continue an identifier. -/
def idContinue : CharSet :=
  .diff
    (.unionAll [idStart,
      ofCategories [.nonspacingMark, .spacingMark, .decimalNumber, .connectorPunctuation],
      .table Members.otherIdContinue])
    (.union (.table Members.patternSyntax) (.table Members.patternWhiteSpace))

/-- Characters that may start an identifier, also after normalisation. -/
def keptIdStart : CharSet := .diff idStart (.table Members.idStartOnly)

/-- Characters that may continue an identifier, also after normalisation. -/
def keptIdContinue : CharSet := .diff idContinue (.table Members.idContinueOnly)

/-- Characters that extend the grapheme before them. -/
def graphemeExtend : CharSet :=
  .layered .none
    (.union (ofCategories [.nonspacingMark, .enclosingMark]) (.table Members.otherGraphemeExtend))

/-- Characters that a grapheme can be built on. -/
def graphemeBase : CharSet :=
  .diff
    (.compl (ofCategories
      [.control, .format, .unassigned, .privateUse, .lineSeparator, .paragraphSeparator]))
    graphemeExtend

/-- Characters without a visible form of their own. -/
def defaultIgnorable : CharSet :=
  .diff
    (.unionAll [.table Category.format.members, .table Members.variationSelector,
      .table Members.otherDefaultIgnorable])
    (.table Members.visibleFormat)

/-- Characters that lower-casing changes. -/
def changesWhenLowercased : CharSet :=
  .diff (.union uppercase (.table Category.titlecaseLetter.members)) (.table Members.keptByLower)

/-- Characters that upper-casing changes. -/
def changesWhenUppercased : CharSet := .table Members.changesWhenUppercased

/-- Characters that title-casing changes. -/
def changesWhenTitlecased : CharSet :=
  .diff (.union changesWhenUppercased (.table Members.titledOnly)) (.table Members.uppercasedOnly)

/-- Characters that folding of case changes. -/
def changesWhenCasefolded : CharSet :=
  .diff (.union changesWhenLowercased (.table Members.foldedOnly)) (.table Members.loweredOnly)

/-- Characters that a change of case changes. -/
def changesWhenCasemapped : CharSet :=
  .unionAll [changesWhenLowercased, changesWhenUppercased, changesWhenTitlecased]

/-- Decimal digits. -/
def digit : CharSet := .layered basicDigit (.table Category.decimalNumber.members)

/-- The word characters of the basic Latin alphabet. -/
def basicWord : CharSet :=
  .ofIntervals [(0x61, 0x7a), (0x41, 0x5a), (0x30, 0x39), (0x5f, 0x5f)]

/-- The characters that words are made of. -/
def word : CharSet :=
  .layered basicWord
    (.unionAll [alphabetic, mark, digit, .table Category.connectorPunctuation.members,
      .table Members.joinControl])

/-- Letters, digits and other numbers. -/
def alphanumeric : CharSet :=
  .layered (.unionAll [basicLower, basicUpper, basicDigit])
    (.union alphabetic (ofCategories [.decimalNumber, .letterNumber, .otherNumber]))

/-- The characters that have a printed form of their own, the space among them. -/
def printable : CharSet :=
  .layered (.interval 0x20 0x7e)
    (.compl (ofCategories [.control, .format, .unassigned, .privateUse, .lineSeparator,
      .paragraphSeparator, .spaceSeparator]))

/-- The properties that have names, each with its names. -/
def named : List (List String × CharSet) :=
  [(["alphabetic", "alpha"], alphabetic),
   (["asciihexdigit", "ahex"], asciiHexDigit),
   (["bidicontrol", "bidic"], .table Members.bidiControl),
   (["cased"], cased),
   (["caseignorable", "ci"], caseIgnorable),
   (["changeswhencasefolded", "cwcf"], changesWhenCasefolded),
   (["changeswhencasemapped", "cwcm"], changesWhenCasemapped),
   (["changeswhenlowercased", "cwl"], changesWhenLowercased),
   (["changeswhentitlecased", "cwt"], changesWhenTitlecased),
   (["changeswhenuppercased", "cwu"], changesWhenUppercased),
   (["dash"], dash),
   (["defaultignorablecodepoint", "di"], defaultIgnorable),
   (["deprecated", "dep"], .table Members.deprecated),
   (["diacritic", "dia"], .table Members.diacritic),
   (["emoji"], .table Members.emoji),
   (["emojicomponent", "ecomp"], .table Members.emojiComponent),
   (["emojimodifier", "emod"], .table Members.emojiModifier),
   (["emojimodifierbase", "ebase"], .table Members.emojiModifierBase),
   (["emojipresentation", "epres"], .table Members.emojiPresentation),
   (["extendedpictographic", "extpict"], .table Members.extendedPictographic),
   (["extender", "ext"], .table Members.extender),
   (["graphemebase", "grbase"], graphemeBase),
   (["graphemeextend", "grext"], graphemeExtend),
   (["graphemelink", "grlink"], .table Members.graphemeLink),
   (["hexdigit", "hex"], .table Members.hexDigit),
   (["hyphen"], .table Members.hyphen),
   (["idcontinue", "idc"], idContinue),
   (["ideographic", "ideo"], .table Members.ideographic),
   (["idcompatmathcontinue"], .table Members.compatMathContinue),
   (["idcompatmathstart"], .table Members.compatMathStart),
   (["idsbinaryoperator", "idsb"], .table Members.idsBinaryOperator),
   (["idstart", "ids"], idStart),
   (["idstrinaryoperator", "idst"], .table Members.idsTrinaryOperator),
   (["idsunaryoperator", "idsu"], .table Members.idsUnaryOperator),
   (["joincontrol", "joinc"], .table Members.joinControl),
   (["logicalorderexception", "loe"], .table Members.logicalOrderException),
   (["lowercase", "lower"], lowercase),
   (["math"], math),
   (["modifiercombiningmark", "mcm"], .table Members.modifierCombiningMark),
   (["noncharactercodepoint", "nchar"], .table Members.noncharacterCodePoint),
   (["otheralphabetic", "oalpha"], .table Members.otherAlphabetic),
   (["otherdefaultignorablecodepoint", "odi"], .table Members.otherDefaultIgnorable),
   (["othergraphemeextend", "ogrext"], .table Members.otherGraphemeExtend),
   (["otheridcontinue", "oidc"], .table Members.otherIdContinue),
   (["otheridstart", "oids"], .table Members.otherIdStart),
   (["otherlowercase", "olower"], .table Members.otherLowercase),
   (["othermath", "omath"], .table Members.otherMath),
   (["otheruppercase", "oupper"], .table Members.otherUppercase),
   (["patternsyntax", "patsyn"], .table Members.patternSyntax),
   (["patternwhitespace", "patws"], .table Members.patternWhiteSpace),
   (["prependedconcatenationmark", "pcm"], .table Members.prependedConcatenationMark),
   (["quotationmark", "qmark"], .table Members.quotationMark),
   (["radical"], .table Members.radical),
   (["regionalindicator", "ri"], .table Members.regionalIndicator),
   (["sentenceterminal", "sterm"], .table Members.sentenceTerminal),
   (["softdotted", "sd"], .table Members.softDotted),
   (["terminalpunctuation", "term"], .table Members.terminalPunctuation),
   (["unifiedideograph", "uideo"], .table Members.unifiedIdeograph),
   (["uppercase", "upper"], uppercase),
   (["variationselector", "vs"], .table Members.variationSelector),
   (["whitespace", "wspace", "space"], CharSet.space),
   (["xidcontinue", "xidc"], keptIdContinue),
   (["xidstart", "xids"], keptIdStart)]

/-- The property of a name, which is in lower case and without separators. -/
def lookup? (name : String) : Option CharSet :=
  (named.find? (·.1.contains name)).map (·.2)

end RowQuery.Unicode.Property
