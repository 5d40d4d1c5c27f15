import RowQuery.Query.Token

/-!
The explanation of the query language.

* `examples`: some queries with what they mean.
* `grammar`: the rules, with the patterns that the tokens are read by.
-/
namespace RowQuery.Help

/-- Some queries, each with what it means. -/
def examples : String := String.intercalate "\n" [
  "Examples:",
  "",
  "foo           - Any column contains \"foo\"",
  "foo bar       - Any column contains \"foo\" followed by \"bar\"",
  "/^foo/        - Any column starts with \"foo\"",
  ":a bar        - Column \"a\" contains \"bar\"",
  ":a \"bar\"      - Column \"a\" is \"bar\"",
  ":2 bar        - Column with index 2 contains \"bar\"",
  "foo NOT bar   - Contains \"foo\" and does not contain \"bar\"",
  "NOT :a /^x/   - Column \"a\" does not start with \"x\"",
  ""]

/-- The rules of the grammar. -/
def rules : List (String × String) := [
  ("<filter>", "<match> +"),
  ("<match>", "<all> | <column>"),
  ("<all>", "<not>? <pattern>"),
  ("<column>", "<not>? <name> <pattern> | <name> <not>? <pattern>"),
  ("<pattern>", "<quote> | <rx> | <word>"),
  ("<name>", "<name-quote> | <name-word>"),
  ("<name-quote>", Token.quotedNamePattern),
  ("<name-word>", Token.namePattern),
  ("<word>", Token.wordPattern),
  ("<rx>", Token.regexPattern),
  ("<quote>", Token.quotePattern),
  ("<not>", Token.notPattern)]

/-- A text with spaces after it up to a width. -/
def padRight (width : Nat) (s : String) : String :=
  s ++ String.ofList (List.replicate (width - s.length) ' ')

/-- The rules of the grammar, one a line. -/
def grammar : String :=
  "Syntax:\n\n" ++
    String.join (rules.map fun (name, rule) => padRight 14 name ++ "= " ++ rule ++ "\n")

/-- The examples and the rules. -/
def full : String := examples ++ "\n" ++ grammar

end RowQuery.Help
