import RowQuery.Command.Level

/-!
Reading the command line.

* `Reading`: what a level has been given so far.
* `Invocation.ofArguments`: what a command line asks for.

Words are taken one by one. A value that stands in a word of its own is held until the next word
shows that it is complete, and is only then looked at; so a fault in a later word may come first.
What words exclude each other and what is missing is looked at last, from the innermost level
outwards.
-/
namespace RowQuery

/-- What a level has been given so far. -/
structure Reading where
  level : Level
  switches : List Switch
  values : List (Slot × String)
  /-- A place named last, and its value unless that is still to come. -/
  pending : Option (Slot × Option String)
  /-- The places for values without a name that are not filled. -/
  operands : List Slot
  /-- Whether all words that follow are values, as they are behind two dashes. -/
  valuesOnly : Bool

namespace Reading

/-- A level that has been given nothing. -/
def start (level : Level) : Reading :=
  { level, switches := [], values := [], pending := none, operands := level.operands,
    valuesOnly := false }

/-- Whether the next word is a value for a place that has been named. -/
def awaitsValue (reading : Reading) : Bool :=
  !reading.valuesOnly &&
    match reading.pending with
    | some (_, none) => true
    | _ => false

/-- Fills a place. It must not have a value yet. -/
def fill (reading : Reading) (slot : Slot) (value : String) : Except Usage Reading :=
  if (reading.values.lookup slot).isSome then .error .conflict
  else if !slot.accepts value then .error .badValue
  else .ok { reading with values := (slot, value) :: reading.values }

/-- Fills the place that was named last. -/
def settle (reading : Reading) : Except Usage Reading :=
  match reading.pending with
  | none => .ok reading
  | some (_, none) => .error .badValue
  | some (slot, some value) => { reading with pending := none }.fill slot value

/-- Names a place whose value may be the next word. -/
def name (reading : Reading) (slot : Slot) (value : Option String) : Except Usage Reading := do
  return { ← reading.settle with pending := some (slot, value) }

/-- Gives a switch. -/
def give (reading : Reading) (switch : Switch) : Except Usage Reading := do
  let reading ← reading.settle
  match switch with
  | .help => .error .help
  | .version => .error .version
  | switch =>
    if switch ∈ reading.switches then .error .conflict
    else .ok { reading with switches := switch :: reading.switches }

/-- Reads a word behind two dashes, with a value if there is a sign of equality in it. -/
def long (reading : Reading) (word : List Char) : Except Usage Reading :=
  let name := String.ofList (word.takeWhile (· ≠ '='))
  let value := match word.dropWhile (· ≠ '=') with
    | [] => none
    | _ :: value => some (String.ofList value)
  if reading.level.takesDelimiter ∧ name = "delimiter" then
    match value with
    | some value => do (← reading.settle).fill .delimiter value
    | none => reading.name .delimiter none
  else
    match reading.level.switches.find? (·.name = name), value with
    | none, _ => .error .unknownArgument
    | some _, some _ => .error .switchValue
    | some switch, none => reading.give switch

/-- Reads letters behind one dash. A letter that takes a value takes the rest of the word for it,
less a sign of equality, or the next word if there is no rest. -/
def letters (reading : Reading) : List Char → Except Usage Reading
  | [] => .ok reading
  | c :: rest =>
    if reading.level.takesDelimiter ∧ c = 'd' then
      match rest with
      | [] => reading.name .delimiter none
      | '=' :: value => do (← reading.settle).fill .delimiter (String.ofList value)
      | value => do (← reading.settle).fill .delimiter (String.ofList value)
    else
      match reading.level.switches.find? (·.letter? = some c) with
      | some switch => do (← reading.give switch).letters rest
      | none => .error .unknownArgument

/-- Reads a value without a name. -/
def operand (reading : Reading) (word : String) : Except Usage Reading :=
  match reading.operands with
  | slot :: operands => do
    return { ← reading.name slot (some word) with operands }
  | [] =>
    if reading.level.below.isEmpty then .error .unknownArgument
    else if reading.valuesOnly ∧
        ((reading.level.below? word).isSome ∨ reading.level.isHelp word) then
      .error .unknownArgument
    else .error .unknownCommand

/-- Reads a word that is no command. -/
def word (reading : Reading) (word : String) : Except Usage Reading :=
  if reading.valuesOnly then reading.operand word
  else
    match word.toList with
    | ['-', '-'] => .ok { reading with valuesOnly := true }
    | '-' :: '-' :: rest => reading.long rest
    | '-' :: c :: rest => reading.letters (c :: rest)
    | _ =>
      if reading.awaitsValue then
        .ok { reading with pending := reading.pending.map fun (slot, _) => (slot, some word) }
      else reading.operand word

/-- Reads all words. Each command found opens a level inside those before it; the levels are given
from the innermost outwards. -/
def all (outer : List Reading) (reading : Reading) : List String →
    Except Usage (Reading × List Reading)
  | [] => .ok (reading, outer)
  | word :: rest =>
    let isCommandPlace := !reading.valuesOnly && !reading.awaitsValue
    if isCommandPlace && reading.level.isHelp word then .error (reading.level.help rest)
    else
      match if isCommandPlace then reading.level.below? word else none with
      | some level => all (reading :: outer) (start level) rest
      | none => do all outer (← reading.word word) rest

/-- A fault if two words exclude each other. -/
def agree (reading : Reading) : Except Usage Unit :=
  if (.verbose ∈ reading.switches ∧ .quiet ∈ reading.switches) ∨
      (.count ∈ reading.switches ∧ .explain ∈ reading.switches) then .error .conflict
  else .ok ()

/-- The source of a table. -/
def source (reading : Reading) : Source :=
  { file := reading.values.lookup .file
    delimiter := reading.values.lookup .delimiter
    noHeader := .noHeader ∈ reading.switches }

/-- What is shown of the rows that a filter keeps. -/
def showing (reading : Reading) : Showing :=
  if .explain ∈ reading.switches then .filter
  else if .count ∈ reading.switches then .count
  else .rows

/-- The command of the innermost level. -/
def command (reading : Reading) : Except Usage Command :=
  match reading.level with
  | .top => .error .missingCommand
  | .filter =>
    match reading.values.lookup .query with
    | some query => .ok (.filter query reading.source reading.showing)
    | none => .error .missingArgument
  | .columns => .ok (.columns reading.source)
  | .guide => .ok .guide
  | .config => .ok .showConfig
  | .configShow => .ok .showConfig
  | .configPath => .ok .configPath
  | .configInit => .ok (.initConfig (.force ∈ reading.switches))
  | .completions =>
    match (reading.values.lookup .shell).bind Shell.ofName? with
    | some shell => .ok (.completions shell)
    | none => .error .missingArgument

/-- Completes the innermost level. -/
def complete (reading : Reading) : Except Usage (Reading × Command) := do
  let reading ← reading.settle
  if reading.level = .top then
    if reading.switches.isEmpty then .error .nothing else .error .missingCommand
  else
    reading.agree
    return (reading, ← reading.command)

/-- Completes the levels around the innermost one. -/
def completeOuter : List Reading → Except Usage Unit
  | [] => .ok ()
  | reading :: outer => do
    (← reading.settle).agree
    completeOuter outer

end Reading

/-- What a command line asks for. A switch counts wherever it is given. -/
def Invocation.ofArguments (words : List String) : Except Usage Invocation := do
  let (inner, outer) ← Reading.all [] (.start .top) words
  let (inner, command) ← inner.complete
  Reading.completeOuter outer
  let given (switch : Switch) : Bool :=
    (inner :: outer).any fun reading => switch ∈ reading.switches
  return {
    command
    verbose := given .verbose
    quiet := given .quiet
    json := given .json
    noColor := given .noColor
    traceParser := given .traceParser }

end RowQuery
