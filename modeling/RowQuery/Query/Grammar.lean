import RowQuery.Directory
import RowQuery.Parser.Run
import RowQuery.Query.Term
import RowQuery.Query.Token

/-!
The grammar of queries.

* `Grammar.column`, `Grammar.pattern`, `Grammar.term`: the rules.
* `Grammar.query`: a whole query, as one term or more.
* `Grammar.parse?`: the terms of a query.

A term is a pattern, maybe with a column before it, and `NOT` negates the term it stands before or
the pattern it stands before. White space between tokens is skipped, and of several readings the
first in the order written counts. A `NOT` that no pattern follows is a word itself.
-/
namespace RowQuery.Grammar

/-- The word that negates. -/
def not : Parser String := .described "not" (.trim (Token.parser Token.notPattern Token.not))

/-- A column's name that the directory knows. -/
def knownColumn (directory : Directory) (name : Parser String) : Parser String :=
  (Parser.trim name).keep fun key => (directory.resolve? key).isSome

/-- A column that a term is about. -/
def column (directory : Directory) : Parser String :=
  .traced <| .described "column" <| .alternation <| .ofList
    [knownColumn directory (Token.bodyParser Token.quotedNamePattern Token.quotedName),
     knownColumn directory (Token.bodyParser Token.namePattern Token.name)]

/-- A pattern: a quote, a regular expression or a word. -/
def pattern : Parser (PatternKind × String) :=
  .traced <| .described "pattern" <| .alternation <| .ofList
    [(Parser.trim (Token.bodyParser Token.quotePattern Token.quote)).map
        fun body => (.quote, Token.unescapeQuote body),
     (Parser.trim (Token.bodyParser Token.regexPattern Token.regex)).map
        fun body => (.regex, Token.unescapeRegex body),
     (Parser.trim (Token.parser Token.wordPattern Token.word)).map fun text => (.word, text)]

/-- A pattern, maybe with `NOT` before it. -/
def negatable : Parser (Bool × PatternKind × String) :=
  .alternation <| .ofList
    [(Parser.pair not pattern).map fun (_, kind, text) => (true, kind, text),
     pattern.map fun (kind, text) => (false, kind, text)]

/-- One term. -/
def term (directory : Directory) : Parser Term :=
  .traced <| .described "term" <| .alternation <| .ofList
    [(Parser.pair not (.pair (column directory) pattern)).map
        fun (_, key, kind, text) => { column := some key, kind, text, negate := true },
     (Parser.pair (column directory) negatable).map
        fun (key, negate, kind, text) => { column := some key, kind, text, negate },
     negatable.map fun (negate, kind, text) => { column := none, kind, text, negate }]

/-- A query. -/
def query (directory : Directory) : Parser (List Term) :=
  .guarded true <| .described "filter" <| .all <| .oneOrMore (term directory)

/-- The terms of a query, if it follows the grammar. -/
def parse? (diagnostics : Diagnostics) (directory : Directory) (text : List Char) :
    Option (List Term) :=
  (query directory).parse? diagnostics text

end RowQuery.Grammar
