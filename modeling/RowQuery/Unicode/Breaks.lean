import RowQuery.Unicode.Property
import RowQuery.Unicode.Script

/-!
Classes of characters by which a text is divided.

* `Breaks.graphemes`: the classes for the division into graphemes.
* `Breaks.words`: the classes for the division into words.
* `Breaks.sentences`: the classes for the division into sentences.

Each class has its names with it, in lower case and without separators. The characters that no class
has are of the class `Other`, which cannot be asked for.
-/
namespace RowQuery.Unicode.Breaks

open Property (ofCategories)

/-! ## Shared by the divisions -/

/-- The joiner that makes one emoji of two. -/
def joiner : CharSet := .single '\u200d'

/-- Flags are written by pairs of these. -/
def regionalIndicator : CharSet := .table Property.Members.regionalIndicator

/-- Marks written before the digits that they join. -/
def joiningMark : CharSet := .table Property.Members.prependedConcatenationMark

/-- The joining mark that is written before letters. -/
def abbreviationMark : CharSet := .single '\u070f'

/-- The characters of numbers. -/
def numeric : CharSet :=
  .unionAll [.table Category.decimalNumber.members, .interval 0x66b 0x66c,
    .diff joiningMark abbreviationMark]

/-- Characters that change the one before them. -/
def extend : CharSet :=
  .diff (.union Property.graphemeExtend (.table Property.Members.emojiModifier)) joiner

/-! ## Graphemes -/

/-- Controls, which stand alone. -/
def control : CharSet :=
  .diff
    (.unionAll [ofCategories [.lineSeparator, .paragraphSeparator, .control, .format],
      .inter (.table Category.unassigned.members) Property.defaultIgnorable])
    (.unionAll [.single '\r', .single '\n', .single '\u200c', joiner, joiningMark, extend])

/-- Characters that the one after them is joined to. -/
def prepend : CharSet :=
  .union joiningMark
    (.ofIntervals [(0xd4e, 0xd4e), (0x111c2, 0x111c3), (0x113d1, 0x113d1), (0x1193f, 0x1193f),
      (0x11941, 0x11941), (0x11a3a, 0x11a3a), (0x11a84, 0x11a89), (0x11d46, 0x11d46),
      (0x11f02, 0x11f02)])

/-- Spacing marks that are written as letters of their own. -/
def standingMark : CharSet :=
  .ofIntervals [(0x102b, 0x102c), (0x1038, 0x1038), (0x1062, 0x1064), (0x1067, 0x106d),
    (0x1083, 0x1083), (0x1087, 0x108c), (0x108f, 0x108f), (0x109a, 0x109c), (0x1a61, 0x1a61),
    (0x1a63, 0x1a64), (0xaa7b, 0xaa7b), (0xaa7d, 0xaa7d), (0x11720, 0x11721)]

/-- Spacing marks, and two vowels that are used like them. -/
def spacingMark : CharSet :=
  .union
    (.diff (.table Category.spacingMark.members) (.union extend standingMark))
    (.ofIntervals [(0xe33, 0xe33), (0xeb3, 0xeb3)])

/-- The syllables of Hangul that end in a vowel: every 28th syllable. -/
def openSyllable : CharSet :=
  .table (.ofList ((List.range 399).map fun i => (0xac00 + 28 * i, 0xac00 + 28 * i)))

/-- The classes for the division into graphemes. -/
def graphemes : List (List String × CharSet) :=
  [(["cn", "control"], control),
   (["cr"], .single '\r'),
   (["ex", "extend"], extend),
   (["l"], .ofIntervals [(0x1100, 0x115f), (0xa960, 0xa97c)]),
   (["lf"], .single '\n'),
   (["lv"], openSyllable),
   (["lvt"], .diff (.interval 0xac00 0xd7a3) openSyllable),
   (["pp", "prepend"], prepend),
   (["ri", "regionalindicator"], regionalIndicator),
   (["sm", "spacingmark"], spacingMark),
   (["t"], .ofIntervals [(0x11a8, 0x11ff), (0xd7cb, 0xd7fb)]),
   (["v"], .ofIntervals [(0x1160, 0x11a7), (0xd7b0, 0xd7c6), (0x16d63, 0x16d63),
      (0x16d67, 0x16d6a)]),
   (["zwj"], joiner)]

/-! ## Words -/

/-- Characters that change the one before them, spacing marks among them. -/
def wordExtend : CharSet :=
  .diff (.union extend (.table Category.spacingMark.members)) joiner

/-- Katakana letters and what is used with them. -/
def katakana : CharSet :=
  .union Script.katakana.set
    (.ofIntervals [(0x3031, 0x3035), (0x309b, 0x309c), (0x30a0, 0x30a0), (0x30fc, 0x30fc),
      (0xff70, 0xff70)])

/-- Hebrew letters. -/
def hebrewLetter : CharSet :=
  .inter Script.hebrew.set (.table Category.otherLetter.members)

/-- The scripts that write no space between words, so that a dictionary is needed to tell them. -/
def unspaced : CharSet :=
  .unionAll ([Script.ahom, .khmer, .lao, .myanmar, .newTaiLue, .taiLe, .taiTham, .taiViet,
    .thai].map Script.set)

/-- Characters that are no letters but belong to words as letters do. -/
def nearLetter : CharSet :=
  .ofIntervals [(0xb8, 0xb8), (0x2c2, 0x2c5), (0x2d2, 0x2d7), (0x2de, 0x2df), (0x2e5, 0x2eb),
    (0x2ed, 0x2ed), (0x2ef, 0x2ff), (0x55a, 0x55c), (0x55e, 0x55e), (0x58a, 0x58a), (0x5f3, 0x5f3),
    (0x70f, 0x70f), (0xa708, 0xa716), (0xa720, 0xa721), (0xa789, 0xa78a), (0xab5b, 0xab5b)]

/-- Letters of words. -/
def wordLetter : CharSet :=
  .union
    (.diff Property.alphabetic
      (.unionAll [.table Property.Members.ideographic, katakana, unspaced, Script.hiragana.set,
        wordExtend, hebrewLetter]))
    nearLetter

/-- The classes for the division into words. -/
def words : List (List String × CharSet) :=
  [(["cr"], .single '\r'),
   (["dq", "doublequote"], .single '"'),
   (["ex", "extendnumlet"],
    .union (.table Category.connectorPunctuation.members) (.single '\u202f')),
   (["extend"], wordExtend),
   (["fo", "format"],
    .diff (.table Category.format.members)
      (.unionAll [.interval 0x200b 0x200d, joiningMark, wordExtend])),
   (["hl", "hebrewletter"], hebrewLetter),
   (["ka", "katakana"], katakana),
   (["le", "aletter"], wordLetter),
   (["lf"], .single '\n'),
   (["mb", "midnumlet"],
    .ofIntervals [(0x2e, 0x2e), (0x2018, 0x2019), (0x2024, 0x2024), (0xfe52, 0xfe52),
      (0xff07, 0xff07), (0xff0e, 0xff0e)]),
   (["ml", "midletter"],
    .ofIntervals [(0x3a, 0x3a), (0xb7, 0xb7), (0x387, 0x387), (0x55f, 0x55f), (0x5f4, 0x5f4),
      (0x2027, 0x2027), (0xfe13, 0xfe13), (0xfe55, 0xfe55), (0xff1a, 0xff1a)]),
   (["mn", "midnum"],
    .ofIntervals [(0x2c, 0x2c), (0x3b, 0x3b), (0x37e, 0x37e), (0x589, 0x589), (0x60c, 0x60d),
      (0x66c, 0x66c), (0x7f8, 0x7f8), (0x2044, 0x2044), (0xfe10, 0xfe10), (0xfe14, 0xfe14),
      (0xfe50, 0xfe50), (0xfe54, 0xfe54), (0xff0c, 0xff0c), (0xff1b, 0xff1b)]),
   (["nl", "newline"], .ofIntervals [(0x0b, 0x0c), (0x85, 0x85), (0x2028, 0x2029)]),
   (["nu", "numeric"], .diff numeric (.single '\u066c')),
   (["ri", "regionalindicator"], regionalIndicator),
   (["sq", "singlequote"], .single '\''),
   (["wsegspace"],
    .diff (.table Category.spaceSeparator.members)
      (.ofIntervals [(0xa0, 0xa0), (0x2007, 0x2007), (0x202f, 0x202f)])),
   (["zwj"], joiner)]

/-! ## Sentences -/

/-- Characters that change the one before them, both joiners and spacing marks among them. -/
def sentenceExtend : CharSet :=
  .unionAll [Property.graphemeExtend, joiner, .table Category.spacingMark.members]

/-- Ends of lines other than the two common ones. -/
def separator : CharSet := .ofIntervals [(0x85, 0x85), (0x2028, 0x2029)]

/-- Space between sentences. -/
def blank : CharSet := .diff CharSet.space (.unionAll [separator, .single '\r', .single '\n'])

/-- Lower-case letters. Georgian has no sentences that start with a capital letter. -/
def lower : CharSet :=
  .diff Property.lowercase
    (.union Property.graphemeExtend (.ofIntervals [(0x10d0, 0x10fa), (0x10fd, 0x10ff)]))

/-- Upper-case letters. -/
def upper : CharSet :=
  .union (.table Category.titlecaseLetter.members)
    (.diff Property.uppercase (.ofIntervals [(0x1c90, 0x1cba), (0x1cbd, 0x1cbf)]))

/-- Other letters. -/
def otherLetter : CharSet :=
  .diff (.unionAll [Property.alphabetic, .single '\u05f3', abbreviationMark])
    (.unionAll [lower, upper, sentenceExtend])

/-- Full stops, which may also belong to an abbreviation. -/
def stop : CharSet :=
  .ofIntervals [(0x2e, 0x2e), (0x2024, 0x2024), (0xfe52, 0xfe52), (0xff0e, 0xff0e)]

/-- Other ends of sentences. -/
def terminator : CharSet := .diff (.table Property.Members.sentenceTerminal) stop

/-- Quotation marks that are neither initial nor final punctuation. -/
def plainQuotation : CharSet :=
  .ofIntervals [(0x22, 0x22), (0x27, 0x27), (0x275b, 0x2760), (0x2e00, 0x2e01), (0x2e06, 0x2e08),
    (0x2e0b, 0x2e0b), (0x1f676, 0x1f678)]

/-- Brackets and quotation marks, which may follow the end of a sentence and still belong to it. -/
def closing : CharSet :=
  .diff
    (.union plainQuotation
      (ofCategories [.openPunctuation, .closePunctuation, .initialPunctuation, .finalPunctuation]))
    (.union stop terminator)

/-- Characters that go on with a sentence. -/
def continuation : CharSet :=
  .ofIntervals [(0x2c, 0x2d), (0x3a, 0x3b), (0x37e, 0x37e), (0x55d, 0x55d), (0x60c, 0x60d),
    (0x7f8, 0x7f8), (0x1802, 0x1802), (0x1808, 0x1808), (0x2013, 0x2014), (0x3001, 0x3001),
    (0xfe10, 0xfe11), (0xfe13, 0xfe14), (0xfe31, 0xfe32), (0xfe50, 0xfe51), (0xfe54, 0xfe55),
    (0xfe58, 0xfe58), (0xfe63, 0xfe63), (0xff0c, 0xff0d), (0xff1a, 0xff1b), (0xff64, 0xff64)]

/-- The classes for the division into sentences. -/
def sentences : List (List String × CharSet) :=
  [(["at", "aterm"], stop),
   (["cl", "close"], closing),
   (["cr"], .single '\r'),
   (["ex", "extend"], sentenceExtend),
   (["fo", "format"],
    .diff (.table Category.format.members) (.unionAll [sentenceExtend, .single '\u200c', joiner,
      joiningMark])),
   (["le", "oletter"], otherLetter),
   (["lf"], .single '\n'),
   (["lo", "lower"], lower),
   (["nu", "numeric"], numeric),
   (["sc", "scontinue"], continuation),
   (["se", "sep"], separator),
   (["sp"], blank),
   (["st", "sterm"], terminator),
   (["up", "upper"], upper)]

/-- The class of a name. -/
def lookup? (classes : List (List String × CharSet)) (name : String) : Option CharSet :=
  (classes.find? (·.1.contains name)).map (·.2)

end RowQuery.Unicode.Breaks
