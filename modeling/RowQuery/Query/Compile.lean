import RowQuery.Query.Filter
import RowQuery.Query.Grammar

/-!
From queries to filters.

* `QueryError`: why a query is refused.
* `Query.parse`: the terms of a query.
* `Query.compileWithin`: the clauses of some terms, within a limit of size.
* `Query.compileTerms`: the filter of some terms.
* `Query.compile`: the filter of a query.

The terms about the whole row that are not negated make one clause, which asks for them in their
order; it stands where the first of them stood. Every other term makes a clause of its own.
-/
namespace RowQuery

/-- Why a query is refused. -/
inductive QueryError where
  | emptyExpression
  | malformed (query : String)
  | unknownColumn (name : String) (suggestion : Option String)
  | invalidPattern (pattern : String) (reason : Regex.Fault)
deriving DecidableEq, Repr

/-- The text of an error. What is wrong with a pattern is not told. -/
def QueryError.message : QueryError → String
  | .emptyExpression => "filter expression is empty"
  | .malformed query => "invalid filter syntax: " ++ query
  | .unknownColumn name suggestion =>
    "unknown column '" ++ name ++ "'" ++
      match suggestion with
      | some s => ". Did you mean '" ++ s ++ "'?"
      | none => ""
  | .invalidPattern pattern _ => "invalid pattern /" ++ pattern ++ "/"

namespace Query

/-! ## Terms -/

/-- The error about a name that stands for no column. -/
def unknownColumn (directory : Directory) (name : String) : QueryError :=
  .unknownColumn name (directory.suggest? name)

/-- The names of columns in a query, each where a token may begin. -/
def qualifiers (text : List Char) : List String :=
  (Token.qualifier.regex.findAll text).filterMap fun found =>
    (found.text? text 1 <|> found.text? text 2).map String.ofList

/-- Why a query does not follow the grammar: the first column in it that is not known, or else the
query as a whole. -/
def explain (directory : Directory) (text : List Char) : QueryError :=
  match (qualifiers text).find? fun name => (directory.resolve? name).isNone with
  | some name => unknownColumn directory name
  | none => .malformed (String.ofList text)

/-- The terms of a query. White space around the query does not count. -/
def parse (diagnostics : Diagnostics) (directory : Directory) (query : String) :
    Except QueryError (List Term) :=
  let text := Text.trim query.toList
  if text.isEmpty then .error .emptyExpression
  else
    match Grammar.parse? diagnostics directory text with
    | some (term :: terms) => .ok (term :: terms)
    | _ => .error (explain directory text)

/-! ## Clauses -/

/-- The regular expression that a term stands for. -/
def derive (term : Term) : String :=
  let escaped := String.ofList (Regex.escape term.text.toList)
  match term.kind with
  | .word => escaped
  | .quote => if term.isBare then escaped else "^" ++ escaped ++ "$"
  | .regex => term.text

/-- The regular expression that asks for several in their order, with a character or more between
one and the next. -/
def deriveAll : List Term → String
  | [term] => derive term
  | terms => String.intercalate ".+" (terms.map fun term => "(?:" ++ derive term ++ ")")

/-- Compiles the pattern of a clause. -/
def compilePattern (limit : Regex.Limit) (pattern : String) : Except QueryError Regex :=
  match Regex.compile limit pattern with
  | .ok regex => .ok regex
  | .error reason => .error (.invalidPattern pattern reason)

/-- What the clause of a term looks at. -/
def target (directory : Directory) (term : Term) : Except QueryError Target :=
  match term.column with
  | none => .ok .row
  | some key =>
    match directory.resolve? key with
    | some column => .ok (.column column.name column.offset)
    | none => .error (unknownColumn directory key)

/-- The clause of one term. -/
def compileTerm (limit : Regex.Limit) (directory : Directory) (term : Term) :
    Except QueryError Clause := do
  let regex ← compilePattern limit (derive term)
  let target ← target directory term
  return { terms := [term], regex, target, negate := term.negate }

/-- The clause of the terms that are asked for in their order. -/
def compileOrdered (limit : Regex.Limit) (terms : List Term) : Except QueryError Clause := do
  let regex ← compilePattern limit (deriveAll terms)
  return { terms, regex, target := .row, negate := false }

/-- The clauses of some terms. `ordered` are the terms asked for in their order, until their clause
has been made. -/
def compileFrom (limit : Regex.Limit) (directory : Directory) (ordered : Option (List Term)) :
    List Term → Except QueryError (List Clause)
  | [] => .ok []
  | term :: rest =>
    if term.isOrdered then
      match ordered with
      | none => compileFrom limit directory none rest
      | some terms => do
        let clause ← compileOrdered limit terms
        let clauses ← compileFrom limit directory none rest
        return clause :: clauses
    else do
      let clause ← compileTerm limit directory term
      let clauses ← compileFrom limit directory ordered rest
      return clause :: clauses

/-- The clauses of some terms, if the programs of their patterns are within a limit; there has to be a
term. -/
def compileWithin (limit : Regex.Limit) (directory : Directory) (terms : List Term) :
    Except QueryError (List Clause) :=
  if terms.isEmpty then .error .emptyExpression
  else compileFrom limit directory (some (terms.filter Term.isOrdered)) terms

/-- The size up to which the patterns of queries are accepted. -/
def sizeLimit : Regex.Limit := 10000

/-- The clauses of some terms. -/
def compileTerms (directory : Directory) (terms : List Term) :
    Except QueryError (List Clause) :=
  compileWithin sizeLimit directory terms

/-- The filter of a query. A query of white space alone keeps every row. -/
def compile (diagnostics : Diagnostics) (directory : Directory) (query : String) :
    Except QueryError Filter :=
  if (Text.trim query.toList).isEmpty then .ok .acceptAll
  else do
    let terms ← parse diagnostics directory query
    let clauses ← compileTerms directory terms
    return .allOf clauses

end Query
end RowQuery
