import RowQuery.Regex.Program

/-!
Running a program over a text.

* `Task`: an instruction about to run at a place in a text.
* `Seen`: the pairs of instruction and place that have been tried.
* `search`: the first task, in order of preference, that leads to acceptance.
* `Program.find?`: the leftmost match of a program, and among those the preferred one.

A task that was tried before is dropped, because what follows from it does not depend on how it
was reached. The number of steps is therefore bounded by the program and the text.
-/
namespace RowQuery.Regex

/-- A place in a text: how many characters lie before it, the last of them, and what follows. -/
structure Place where
  offset : Nat
  before : Option Char
  rest : List Char

/-- The place one character further on. -/
def Place.after (place : Place) (c : Char) (rest : List Char) : Place :=
  { offset := place.offset + 1, before := some c, rest }

/-- The places of a text from a given one to its end. -/
def Place.from (offset : Nat) (before : Option Char) : List Char → List Place
  | [] => [{ offset, before, rest := [] }]
  | c :: r => { offset, before, rest := c :: r } :: Place.from (offset + 1) (some c) r

/-- An instruction about to run. `origin` is where the match began, and `marks` are the places
kept so far with their slots, the latest first. -/
structure Task where
  inst : Nat
  place : Place
  origin : Nat
  marks : List (Nat × Nat)

/-- The pairs of instruction and place tried: for each place a number whose bits are the
instructions. -/
abbrev Seen := Array Nat

/-- Nothing tried yet, for a text of the given length. -/
def Seen.none (length : Nat) : Seen := Array.replicate (length + 1) 0

/-- Whether an instruction was tried at a place. -/
def Seen.test (seen : Seen) (offset inst : Nat) : Bool :=
  ((seen[offset]?).getD 0).testBit inst

/-- Takes note of an instruction at a place. -/
def Seen.add (seen : Seen) (offset inst : Nat) : Seen :=
  seen.modify offset fun bits => bits ||| (1 <<< inst)

/-- A match: where it begins and ends, and the places kept on the way. -/
structure Found where
  start : Nat
  stop : Nat
  marks : List (Nat × Nat)
deriving Repr

/-- The place kept last in a slot. -/
def Found.slot? (found : Found) (slot : Nat) : Option Nat :=
  (found.marks.find? (·.1 == slot)).map (·.2)

/-- Where a group begins and ends. Group 0 is the match itself; a group that took no part in the
match has no place. -/
def Found.group? (found : Found) (index : Nat) : Option (Nat × Nat) :=
  if index = 0 then some (found.start, found.stop)
  else do
    let start ← found.slot? (2 * index)
    let stop ← found.slot? (2 * index + 1)
    return (start, stop)

/-- The tasks that an instruction leads to, the preferred one first. -/
def Task.next (task : Task) : Inst → List Task
  | .set s next =>
    match task.place.rest with
    | [] => []
    | c :: r => if s.mem c then [{ task with inst := next, place := task.place.after c r }] else []
  | .look l next =>
    if l.holds task.place.before task.place.rest then [{ task with inst := next }] else []
  | .fork first second => [{ task with inst := first }, { task with inst := second }]
  | .mark slot next =>
    [{ task with inst := next, marks := (slot, task.place.offset) :: task.marks }]
  | .accept => []

/-- Runs tasks from the front, what a task leads to before what stands behind it. -/
def search (insts : Array Inst) : Nat → List Task → Seen → Option Found
  | 0, _, _ => none
  | _ + 1, [], _ => none
  | steps + 1, task :: tasks, seen =>
    if seen.test task.place.offset task.inst then search insts steps tasks seen
    else
      match insts[task.inst]? with
      | none => search insts steps tasks seen
      | some .accept => some ⟨task.origin, task.place.offset, task.marks⟩
      | some inst =>
        search insts steps (task.next inst ++ tasks) (seen.add task.place.offset task.inst)

namespace Program

/-- The tasks that start a program at each place of a text, from a given one on. -/
def tasks (program : Program) (text : List Char) (offset : Nat) : List Task :=
  ((Place.from 0 none text).drop offset).map fun place =>
    { inst := program.start, place, origin := place.offset, marks := [] }

/-- More steps than a search of a text of the given length can take. -/
def steps (program : Program) (length : Nat) : Nat :=
  (2 * program.insts.size + 1) * (length + 1) + 1

/-- The leftmost match that begins at `offset` or later, and of the matches that begin there the
preferred one. -/
def find? (program : Program) (text : List Char) (offset : Nat) : Option Found :=
  search program.insts (program.steps text.length) (program.tasks text offset)
    (.none text.length)

end Program
end RowQuery.Regex
