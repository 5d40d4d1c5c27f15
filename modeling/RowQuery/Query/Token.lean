import RowQuery.Parser.Basic

/-!
The tokens of queries.

* `namePattern`, …: the written patterns of the tokens.
* `name`, …: the tokens, each pattern with the expression that it reads as.
* `unescape`: the text of a delimited token.
-/
namespace RowQuery.Token

open Regex (Node Known)
open Unicode (CharSet)

/-! ## Patterns -/

/-- A column's name after a colon; group 1 is the name. -/
def namePattern : String := ":([^\\s:]+)"

/-- A column's name in quotes after a colon; group 1 is the name. -/
def quotedNamePattern : String := ":\"([^\"]+)\""

/-- A text in quotes, in which a backslash goes with a quote or a backslash after it; group 1 is the
text between the quotes. -/
def quotePattern : String := "\"((?:\\\\[\"\\\\]|[^\"])*)\""

/-- A regular expression between slashes, in which a backslash goes with a slash or a backslash after
it; group 1 is the text between the slashes. -/
def regexPattern : String := "/((?:\\\\[/\\\\]|[^/])*)/"

/-- A word: no white space, colon, quote or slash. -/
def wordPattern : String := "[^:\"/\\s]+"

/-- The word that negates. -/
def notPattern : String := "NOT\\b"

/-- A column's name where a token may begin; one of the groups 1 and 2 is the name. -/
def qualifierPattern : String := "(?:^|\\s)(?:NOT\\s+)?:(?:\"([^\"]+)\"|([^\\s:\"]+))"

/-! ## Tokens -/

/-- The characters of the list and white space. -/
def orSpace (chars : List Char) : CharSet := .unionAll (chars.map .single ++ [.space])

/-- White space and the characters of the list. -/
def spaceOr (chars : List Char) : CharSet := .unionAll (.space :: chars.map .single)

/-- One character or more outside a set, as many as there are. -/
def runOutside (s : CharSet) : Node := .iterate (.set (.compl s) false) 1 none true

/-- A text between two occurrences of `d`, in which a backslash goes with a `d` or a backslash after
it. -/
def delimited (d : Char) : Node :=
  .cat (.char d)
    (.cat
      (.group 1
        (.iterate
          (.alt
            (.cat (.char '\\') (.set (.unionAll [.single d, .single '\\']) false))
            (.set (.compl (.single d)) false))
          0 none true))
      (.char d))

/-- The token of an expression, at the start of a text. -/
def atStart (node : Node) : Node := .cat (.look .textStart) node

/-- A column's name. -/
def name : Known where
  pattern := Parser.anchored namePattern
  node := atStart (.cat (.char ':') (.group 1 (runOutside (spaceOr [':']))))
  parse?_pattern := by decide +kernel

/-- A column's name in quotes. -/
def quotedName : Known where
  pattern := Parser.anchored quotedNamePattern
  node := atStart
    (.cat (.text [':', '"']) (.cat (.group 1 (runOutside (.single '"'))) (.char '"')))
  parse?_pattern := by decide +kernel

/-- A text in quotes. -/
def quote : Known where
  pattern := Parser.anchored quotePattern
  node := atStart (delimited '"')
  parse?_pattern := by decide +kernel

/-- A regular expression between slashes. -/
def regex : Known where
  pattern := Parser.anchored regexPattern
  node := atStart (delimited '/')
  parse?_pattern := by decide +kernel

/-- A word. -/
def word : Known where
  pattern := Parser.anchored wordPattern
  node := atStart (runOutside (orSpace [':', '"', '/']))
  parse?_pattern := by decide +kernel

/-- The word that negates: no letter, digit or other word character follows it. -/
def not : Known where
  pattern := Parser.anchored notPattern
  node := atStart (.cat (.text ['N', 'O', 'T']) (.look (.word false .either)))
  parse?_pattern := by decide +kernel

/-- A column's name where a token may begin. -/
def qualifier : Known where
  pattern := qualifierPattern
  node :=
    .cats [.alt (.look .textStart) (.set .space false),
      .iterate
        (.cat (.text ['N', 'O', 'T']) (.iterate (.set .space false) 1 none true))
        0 (some 1) true,
      .char ':',
      .alt
        (.cats [.char '"', .group 1 (runOutside (.single '"')), .char '"'])
        (.group 2 (runOutside (spaceOr [':', '"'])))]
  parse?_pattern := by decide +kernel

/-- The parser of a token whose value is the whole text of it. -/
def parser (pattern : String) (known : Known) : Parser String := .regex pattern known.regex

/-- The parser of a token whose value is the text of its first group. -/
def bodyParser (pattern : String) (known : Known) : Parser String :=
  .capture pattern known.regex 1

/-! ## Texts between delimiters -/

/-- A text without the backslashes before characters that are to be escaped. A backslash goes with
the character after it, whichever it is. -/
def unescape (escapable : List Char) : List Char → List Char
  | [] => []
  | [c] => [c]
  | c :: d :: r =>
    if c = '\\' then
      if escapable.contains d then d :: unescape escapable r
      else '\\' :: d :: unescape escapable r
    else c :: unescape escapable (d :: r)

/-- The text of a quote, given what stands between the quotes. -/
def unescapeQuote (body : String) : String :=
  String.ofList (unescape ['"', '\\'] body.toList)

/-- The regular expression between slashes. Escapes other than that of the slash are the
expression's own. -/
def unescapeRegex (body : String) : String := String.ofList (unescape ['/'] body.toList)

end RowQuery.Token
