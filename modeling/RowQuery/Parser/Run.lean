import RowQuery.Parser.Basic
import RowQuery.Text.Size

/-!
Running parsers.

* `Run`: what a run reports and what it ends with.
* `repeatFrom`: a parser applied as long as it consumes something.
* `Parser.run`: the run of a parser on an input.
* `Parser.parse?`: the value of a parser on an input.
-/
namespace RowQuery

/-- The course of a run: the events reported, in order, and the answer or the fault it ended
with. -/
structure Run (α : Type) where
  events : List Event
  outcome : Except Fault α

namespace Run

/-- A run that reports nothing. -/
def done {α : Type} (a : α) : Run α := ⟨[], .ok a⟩

/-- A run followed by another that depends on its answer. A fault ends both. -/
def bind {α β : Type} (run : Run α) (next : α → Run β) : Run β :=
  match run.outcome with
  | .error fault => ⟨run.events, .error fault⟩
  | .ok a =>
    let rest := next a
    ⟨run.events ++ rest.events, rest.outcome⟩

/-- A run that reports nothing and ends as given. -/
def lift {α : Type} (outcome : Except Fault α) : Run α := ⟨[], outcome⟩

/-- A run with events before it. -/
def before {α : Type} (events : List Event) (run : Run α) : Run α :=
  { run with events := events ++ run.events }

/-- A run followed by another if it found a match. -/
def ifFound {α β : Type} (run : Run (Match α)) (next : α → List Char → Run (Match β)) :
    Run (Match β) :=
  run.bind fun
    | .found value rest => next value rest
    | .absent => done .absent

end Run

/-- Applies `step` as long as it matches and consumes something; what it answers otherwise is
dropped. `rounds` bounds the number of applications. -/
def repeatFrom {α : Type} (step : List Char → Run (Match α)) :
    Nat → List Char → Run (List α × List Char)
  | 0, input => .done ([], input)
  | rounds + 1, input =>
    (step input).bind fun
      | .absent => .done ([], input)
      | .found value rest =>
        if Text.size rest < Text.size input then
          (repeatFrom step rounds rest).bind fun (values, rest) => .done (value :: values, rest)
        else .done ([], input)

/-- Applies `step` as long as it matches and consumes something. As the rest gets shorter each
time, one application more than there are bytes is enough. -/
def repeated {α : Type} (step : List Char → Run (Match α)) (input : List Char) :
    Run (List α × List Char) :=
  repeatFrom step (Text.size input + 1) input

namespace Parser

/-- The match of a regular expression, with a value taken from it. -/
def regexMatch (regex : Regex) (group : Nat) (input : List Char) : Match String :=
  match regex.find? input with
  | none => .absent
  | some found =>
    .found (String.ofList ((found.text? input group).getD [])) (input.drop found.stop)

end Parser

open RowQuery.Parser (regexMatch)

mutual

/-- The run of a parser on an input. -/
def Parser.run {α : Type} (diagnostics : Diagnostics) : Parser α → List Char → Run (Match α)
  | .literal text, input =>
    .done (if text.toList.isPrefixOf input then .found text (input.drop text.length) else .absent)
  | .regex _ regex, input => .done (regexMatch regex 0 input)
  | .capture _ regex group, input => .done (regexMatch regex group input)
  | .endOfInput, input => .done (if input.isEmpty then .found () input else .absent)
  | .leaf _ f, input => .lift (f input)
  | .trim p, input =>
    (p.run diagnostics (Text.trimStart input)).ifFound fun value rest =>
      .done (.found value (Text.trimStart rest))
  | .sequence ps, input => ps.runAll diagnostics input
  | .pair p q, input =>
    (p.run diagnostics input).ifFound fun a rest =>
      (q.run diagnostics rest).ifFound fun b rest => .done (.found (a, b) rest)
  | .alternation ps, input => ps.runFirst diagnostics input
  | .conjunction ps, input => ps.runEach diagnostics input .absent
  | .zeroOrMore p, input =>
    (repeated (p.run diagnostics) input).bind fun (values, rest) => .done (.found values rest)
  | .atLeast n p, input =>
    (repeated (p.run diagnostics) input).bind fun (values, rest) =>
      .done (if n ≤ values.length then .found values rest else .absent)
  | .oneOrMore p, input =>
    (repeated (p.run diagnostics) input).bind fun (values, rest) =>
      .done (if 1 ≤ values.length then .found values rest else .absent)
  | .optional p, input =>
    (p.run diagnostics input).bind fun
      | .found value rest => .done (.found (some value) rest)
      | .absent => .done (.found none input)
  | .labeled names p, input =>
    (p.run diagnostics input).ifFound fun values rest =>
      .done (if values.length = names.length then .found (.ofList (names.zip values)) rest
        else .absent)
  | .transform p f, input =>
    (p.run diagnostics input).ifFound fun value rest =>
      (Run.lift (f value)).bind fun value => .done (.found value rest)
  | .filter p test, input =>
    (p.run diagnostics input).ifFound fun value rest =>
      (Run.lift (test value)).bind fun passed =>
        .done (if passed then .found value rest else .absent)
  | .negatePresence p, input =>
    (p.run diagnostics input).bind fun m =>
      .done (if m.isFound then .absent else .found () input)
  | .all p, input =>
    (p.run diagnostics input).bind fun m => .done (if m.isComplete then m else .absent)
  | .guarded reported p, input =>
    let run := p.run diagnostics input
    match run.outcome with
    | .ok _ => run
    | .error fault =>
      let events := if reported then
        diagnostics.report (.fault (p.description diagnostics) input fault.message) else []
      ⟨run.events ++ events, .ok .absent⟩
  | .traced p, input =>
    let name := p.description diagnostics
    Run.before (diagnostics.report (.enter name input))
      ((p.run diagnostics input).bind fun m =>
        ⟨diagnostics.report (.exit name input m.rest?), .ok m⟩)
  | .described _ p, input => p.run diagnostics input

/-- The parsers of a list one after another. -/
def Parsers.runAll {α : Type} (diagnostics : Diagnostics) :
    Parsers α → List Char → Run (Match (List α))
  | .nil, input => .done (.found [] input)
  | .cons p ps, input =>
    (p.run diagnostics input).ifFound fun value rest =>
      (ps.runAll diagnostics rest).ifFound fun values rest => .done (.found (value :: values) rest)

/-- The first parser of a list that matches. -/
def Parsers.runFirst {α : Type} (diagnostics : Diagnostics) :
    Parsers α → List Char → Run (Match α)
  | .nil, _ => .done .absent
  | .cons p ps, input =>
    (p.run diagnostics input).bind fun
      | .found value rest => .done (.found value rest)
      | .absent => ps.runFirst diagnostics input

/-- All parsers of a list on one input, with the answer of the last. `last` is the answer of the
parser before. -/
def Parsers.runEach {α : Type} (diagnostics : Diagnostics) :
    Parsers α → List Char → Match α → Run (Match α)
  | .nil, _, last => .done last
  | .cons p ps, input, _ =>
    (p.run diagnostics input).ifFound fun value rest =>
      ps.runEach diagnostics input (.found value rest)

end

attribute [grind =] Parser.run Parsers.runAll Parsers.runFirst Parsers.runEach

/-- The value of a parser on an input, if it matches and nothing faults. -/
def Parser.parse? {α : Type} (diagnostics : Diagnostics) (p : Parser α) (input : List Char) :
    Option α :=
  match (p.run diagnostics input).outcome with
  | .ok m => m.value?
  | .error _ => none

end RowQuery
