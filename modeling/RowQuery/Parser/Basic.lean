import RowQuery.Parser.Event
import RowQuery.Parser.Match
import RowQuery.Parser.Record
import RowQuery.Regex.Basic

/-!
Parsers as trees.

* `Fault`: how user code can fail beside not matching.
* `Parser`, `Parsers`: a parser of values of a type, and a list of such parsers.
* `Parser.description`: how a parser shows itself.
* `Parser.regex?`, `Parser.capture?`: parsers of patterns, which may be refused.

A parser is data, so that what holds of all parsers is shown by induction on it. Whether a parser
that is to be traced is wrapped is known when it runs: with diagnostics off it shows itself and
behaves as the parser inside.
-/
namespace RowQuery

/-- How user code fails: with a text or with something else. -/
inductive Fault where
  | text (message : String)
  | other
deriving DecidableEq, Repr

/-- The message reported for a fault. -/
def Fault.message : Fault → String
  | .text message => message
  | .other => "unknown fault"

mutual

/-- Parsers of values of a type.

`leaf` is user code, and so are the functions of `transform` and `filter`; all of them may fault.
`guarded` turns a fault into no match and reports it if asked to. `described` shows the parser
inside under another description. -/
inductive Parser : Type → Type 1 where
  | literal (text : String) : Parser String
  | regex (pattern : String) (regex : Regex) : Parser String
  | capture (pattern : String) (regex : Regex) (group : Nat) : Parser String
  | endOfInput : Parser Unit
  | leaf {α : Type} (description : String) (run : List Char → Except Fault (Match α)) : Parser α
  | trim {α : Type} (p : Parser α) : Parser α
  | sequence {α : Type} (ps : Parsers α) : Parser (List α)
  | pair {α β : Type} (p : Parser α) (q : Parser β) : Parser (α × β)
  | alternation {α : Type} (ps : Parsers α) : Parser α
  | conjunction {α : Type} (ps : Parsers α) : Parser α
  | zeroOrMore {α : Type} (p : Parser α) : Parser (List α)
  | atLeast {α : Type} (n : Nat) (p : Parser α) : Parser (List α)
  | oneOrMore {α : Type} (p : Parser α) : Parser (List α)
  | optional {α : Type} (p : Parser α) : Parser (Option α)
  | labeled {α : Type} (names : List String) (p : Parser (List α)) : Parser (Record α)
  | transform {α β : Type} (p : Parser α) (f : α → Except Fault β) : Parser β
  | filter {α : Type} (p : Parser α) (test : α → Except Fault Bool) : Parser α
  | negatePresence {α : Type} (p : Parser α) : Parser Unit
  | all {α : Type} (p : Parser α) : Parser α
  | guarded {α : Type} (reported : Bool) (p : Parser α) : Parser α
  | traced {α : Type} (p : Parser α) : Parser α
  | described {α : Type} (description : String) (p : Parser α) : Parser α

/-- Lists of parsers of one type. -/
inductive Parsers : Type → Type 1 where
  | nil {α : Type} : Parsers α
  | cons {α : Type} (p : Parser α) (ps : Parsers α) : Parsers α

end

instance {α : Type} : Inhabited (Parser α) := ⟨.leaf "" fun _ => .ok .absent⟩

/-- The parsers of a list. -/
def Parsers.ofList {α : Type} : List (Parser α) → Parsers α
  | [] => .nil
  | p :: r => .cons p (.ofList r)

namespace Parser

/-- The description of an operation applied to parts. -/
def call (name : String) (parts : List String) : String :=
  name ++ "(" ++ String.intercalate ", " parts ++ ")"

end Parser

open RowQuery.Parser (call)

mutual

/-- How a parser shows itself. -/
def Parser.description {α : Type} (diagnostics : Diagnostics) : Parser α → String
  | .literal text => call "literal" [Text.quoted text]
  | .regex pattern _ => call "regex" ["/" ++ pattern ++ "/"]
  | .capture pattern _ group => call "regex" ["/" ++ pattern ++ "/", group.repr]
  | .endOfInput => call "end_of_input" []
  | .leaf description _ => description
  | .trim p => call "trim" [p.description diagnostics]
  | .sequence ps => call "sequence" (ps.descriptions diagnostics)
  | .pair p q => call "pair" [p.description diagnostics, q.description diagnostics]
  | .alternation ps => call "alternation" (ps.descriptions diagnostics)
  | .conjunction ps => call "conjunction" (ps.descriptions diagnostics)
  | .zeroOrMore p => call "zero_or_more" [p.description diagnostics]
  | .atLeast n p => call "at_least" [n.repr, p.description diagnostics]
  | .oneOrMore p => call "one_or_more" [p.description diagnostics]
  | .optional p => call "optional" [p.description diagnostics]
  | .labeled names p => call "labeled" [Text.quoteList names, p.description diagnostics]
  | .transform p _ => call "transform" [p.description diagnostics]
  | .filter p _ => call "filter" [p.description diagnostics]
  | .negatePresence p => call "negate_presence" [p.description diagnostics]
  | .all p => call "all" [p.description diagnostics]
  | .guarded _ p => call "fault_safe" [p.description diagnostics]
  | .traced p =>
    if diagnostics.enabled then call "trace" [p.description diagnostics]
    else p.description diagnostics
  | .described description _ => description

/-- How the parsers of a list show themselves. -/
def Parsers.descriptions {α : Type} (diagnostics : Diagnostics) :
    Parsers α → List String
  | .nil => []
  | .cons p ps => p.description diagnostics :: ps.descriptions diagnostics

end

namespace Parser

/-- How a parser shows itself among other values. -/
def debug {α : Type} (diagnostics : Diagnostics) (p : Parser α) : String :=
  "Parser \x7b description: " ++ Text.quoted (p.description diagnostics) ++ ", .. \x7d"

/-- A parser with its value changed by a function that does not fault. -/
def map {α β : Type} (p : Parser α) (f : α → β) : Parser β := .transform p fun a => .ok (f a)

/-- A parser that keeps the values that pass a test. -/
def keep {α : Type} (p : Parser α) (test : α → Bool) : Parser α :=
  .filter p fun a => .ok (test a)

/-! ## Parsers of patterns -/

/-- Why a parser cannot be built. -/
inductive BuildError where
  | invalidPattern (pattern : String) (reason : Regex.Fault)
  | noSuchGroup (pattern : String) (group : Nat)
deriving DecidableEq, Inhabited, Repr

/-- The text of an error about groups. -/
def noSuchGroupMessage (pattern : String) (group : Nat) : String :=
  "pattern /" ++ pattern ++ "/ has no capture group " ++ group.repr

/-- The size up to which the patterns of parsers are accepted. -/
def sizeLimit : Regex.Limit := 100000

/-- The pattern that matches where `pattern` does, at the start of a text. -/
def anchored (pattern : String) : String := "^(?:" ++ pattern ++ ")"

/-- The regular expression of a pattern anchored at the start. -/
def compile? (pattern : String) : Except BuildError Regex :=
  match Regex.compile sizeLimit (anchored pattern) with
  | .ok compiled => .ok compiled
  | .error fault => .error (.invalidPattern pattern fault)

/-- The parser of a pattern at the start of its input; its value is the text matched. -/
def regex? (pattern : String) : Except BuildError (Parser String) :=
  match compile? pattern with
  | .ok compiled => .ok (.regex pattern compiled)
  | .error e => .error e

/-- The parser of a pattern at the start of its input; its value is the text of a group. -/
def capture? (pattern : String) (group : Nat) : Except BuildError (Parser String) :=
  match compile? pattern with
  | .ok compiled =>
    if compiled.groups ≤ group then .error (.noSuchGroup pattern group)
    else .ok (.capture pattern compiled group)
  | .error e => .error e

end Parser
end RowQuery
