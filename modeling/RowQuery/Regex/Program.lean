import RowQuery.Regex.Node

/-!
Regular expressions as programs.

* `Inst`: instructions, each with the addresses of what comes after it.
* `Program.ofNode`: the program of an expression.

An expression is compiled towards the address that follows it, so each instruction is complete
when it is written; only a loop has its place kept until its body is known.
-/
namespace RowQuery.Regex

open Unicode (CharSet)

/-- Instructions. `fork` prefers its first address, `mark` keeps the place reached in a slot. -/
inductive Inst where
  | set (s : CharSet) (next : Nat)
  | look (l : Look) (next : Nat)
  | fork (first second : Nat)
  | mark (slot next : Nat)
  | accept

/-- A program and the address it starts at. -/
structure Program where
  insts : Array Inst
  start : Nat

namespace Program

/-- A choice between going on with a round and leaving, in the order of preference. -/
def choice (greedy : Bool) (round leave : Nat) : Inst :=
  if greedy then .fork round leave else .fork leave round

/-- A text followed by `next`, one instruction for each character. -/
def text : List Char → Nat → Array Inst → Nat × Array Inst
  | [], next, insts => (next, insts)
  | c :: r, next, insts =>
    let (second, insts) := text r next insts
    (insts.size, insts.push (.set (.single c) second))

/-- `count` copies of something compiled towards `next`. -/
def copies (compile : Nat → Array Inst → Nat × Array Inst) :
    Nat → Nat → Array Inst → Nat × Array Inst
  | 0, next, insts => (next, insts)
  | count + 1, next, insts =>
    let (start, insts) := compile next insts
    copies compile count start insts

/-- `count` optional copies, each of which may leave for `leave` at once. -/
def optionals (compile : Nat → Array Inst → Nat × Array Inst) (greedy : Bool) (leave : Nat) :
    Nat → Nat → Array Inst → Nat × Array Inst
  | 0, next, insts => (next, insts)
  | count + 1, next, insts =>
    let (round, insts) := compile next insts
    optionals compile greedy leave count insts.size (insts.push (choice greedy round leave))

/-- The instructions of an expression followed by `next`, appended to those already there, and the
address they start at. After each round of a loop comes the choice whether to go on. Before the
first round that choice serves too if a round always takes a character; otherwise the first round
has a choice of its own, so that a round that takes nothing does not use it up. -/
def compile : Node → Nat → Array Inst → Nat × Array Inst
  | .empty, next, insts => (next, insts)
  | .text s, next, insts => text s next insts
  | .set s _, next, insts => (insts.size, insts.push (.set s next))
  | .look l, next, insts => (insts.size, insts.push (.look l next))
  | .cat a b, next, insts =>
    let (middle, insts) := compile b next insts
    compile a middle insts
  | .alt a b, next, insts =>
    let (first, insts) := compile a next insts
    let (second, insts) := compile b next insts
    (insts.size, insts.push (.fork first second))
  | .group index a, next, insts =>
    let (start, insts) := compile a insts.size (insts.push (.mark (2 * index + 1) next))
    (insts.size, insts.push (.mark (2 * index) start))
  | .iterate a min (some max) greedy, next, insts =>
    let (start, insts) := optionals (compile a) greedy next (max - min) next insts
    copies (compile a) min start insts
  | .iterate a min none greedy, next, insts =>
    let again := insts.size
    let (round, insts) := compile a again (insts.push .accept)
    let insts := insts.setIfInBounds again (choice greedy round next)
    match min with
    | 0 =>
      if a.alwaysConsumes then (again, insts)
      else (insts.size, insts.push (choice greedy round next))
    | min + 1 => copies (compile a) min round insts

/-- The program of an expression. -/
def ofNode (a : Node) : Program :=
  let (start, insts) := compile a 0 #[.accept]
  { insts, start }

end Program
end RowQuery.Regex
