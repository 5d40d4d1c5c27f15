import RowQuery.Parser.Run

/-!
What is reported makes no difference to what is answered.

* `Alike`: two runs end alike, whatever they report on the way.
* `Alike.bind`, `Alike.ifFound`, `Alike.repeatFrom`, …: how runs that end alike go on.
* `Parser.alike_run`: a parser runs alike under any two diagnostics.

A parser that is to be traced is wrapped under some diagnostics and left as it is under others, so the two
runs do not have the same steps; what they have in common is how each part of them ends.
-/
namespace RowQuery

variable {α β : Type}

/-- Two runs end with the same answer or with the same fault. -/
def Alike (run run' : Run α) : Prop := run.outcome = run'.outcome

namespace Alike

variable {run run' : Run α} {step step' : List Char → Run (Match α)}

theorem refl (run : Run α) : Alike run run := rfl

/-- A fault ends both runs; an answer is the same for what comes next. -/
theorem bind {next next' : α → Run β} (h : Alike run run') (hn : ∀ a, Alike (next a) (next' a)) :
    Alike (run.bind next) (run'.bind next') := by
  unfold Alike at h
  unfold Alike Run.bind
  rw [← h]
  cases run.outcome with
  | error fault => rfl
  | ok a => exact hn a

theorem ifFound {run run' : Run (Match α)} {next next' : α → List Char → Run (Match β)}
    (h : Alike run run') (hn : ∀ a rest, Alike (next a rest) (next' a rest)) :
    Alike (run.ifFound next) (run'.ifFound next') := by
  refine h.bind fun m => ?_
  cases m with
  | found a rest => exact hn a rest
  | absent => exact refl _

theorem before (events events' : List Event) (h : Alike run run') :
    Alike (run.before events) (run'.before events') := h

/-- What is reported at the end of a run does not count. -/
theorem reporting (events events' : α → List Event) (h : Alike run run') :
    Alike (run.bind fun a => ⟨events a, .ok a⟩) (run'.bind fun a => ⟨events' a, .ok a⟩) :=
  h.bind fun _ => rfl

theorem repeatFrom (h : ∀ input, Alike (step input) (step' input)) (rounds : Nat)
    (input : List Char) :
    Alike (RowQuery.repeatFrom step rounds input) (RowQuery.repeatFrom step' rounds input) := by
  induction rounds generalizing input with
  | zero => exact refl _
  | succ rounds ih =>
    refine (h input).bind fun m => ?_
    cases m with
    | absent => exact refl _
    | found value rest =>
      simp only
      split
      · exact (ih rest).bind fun _ => refl _
      · exact refl _

theorem repeated (h : ∀ input, Alike (step input) (step' input)) (input : List Char)
    (next : List α × List Char → Run β) :
    Alike ((RowQuery.repeated step input).bind next) ((RowQuery.repeated step' input).bind next) :=
  (repeatFrom h _ input).bind fun _ => refl _

end Alike

mutual

/-- A parser answers the same, or faults the same, however much is reported. -/
theorem Parser.alike_run (diagnostics diagnostics' : Diagnostics) :
    {α : Type} → (p : Parser α) → (input : List Char) →
      Alike (p.run diagnostics input) (p.run diagnostics' input)
  | _, .literal _, _ => .refl _
  | _, .regex _ _, _ => .refl _
  | _, .capture _ _ _, _ => .refl _
  | _, .endOfInput, _ => .refl _
  | _, .leaf _ _, _ => .refl _
  | _, .trim p, input => by
    rw [Parser.run, Parser.run]
    exact (p.alike_run diagnostics diagnostics' _).ifFound fun _ _ => .refl _
  | _, .sequence ps, input => by
    rw [Parser.run, Parser.run]
    exact ps.alike_runAll diagnostics diagnostics' input
  | _, .pair p q, input => by
    rw [Parser.run, Parser.run]
    exact (p.alike_run diagnostics diagnostics' input).ifFound fun _ rest =>
      (q.alike_run diagnostics diagnostics' rest).ifFound fun _ _ => .refl _
  | _, .alternation ps, input => by
    rw [Parser.run, Parser.run]
    exact ps.alike_runFirst diagnostics diagnostics' input
  | _, .conjunction ps, input => by
    rw [Parser.run, Parser.run]
    exact ps.alike_runEach diagnostics diagnostics' input .absent
  | _, .zeroOrMore p, input => by
    rw [Parser.run, Parser.run]
    exact .repeated (p.alike_run diagnostics diagnostics') input _
  | _, .atLeast _ p, input => by
    rw [Parser.run, Parser.run]
    exact .repeated (p.alike_run diagnostics diagnostics') input _
  | _, .oneOrMore p, input => by
    rw [Parser.run, Parser.run]
    exact .repeated (p.alike_run diagnostics diagnostics') input _
  | _, .optional p, input => by
    rw [Parser.run, Parser.run]
    exact (p.alike_run diagnostics diagnostics' input).bind fun _ => .refl _
  | _, .labeled _ p, input => by
    rw [Parser.run, Parser.run]
    exact (p.alike_run diagnostics diagnostics' input).ifFound fun _ _ => .refl _
  | _, .transform p _, input => by
    rw [Parser.run, Parser.run]
    exact (p.alike_run diagnostics diagnostics' input).ifFound fun _ _ => .refl _
  | _, .filter p _, input => by
    rw [Parser.run, Parser.run]
    exact (p.alike_run diagnostics diagnostics' input).ifFound fun _ _ => .refl _
  | _, .negatePresence p, input => by
    rw [Parser.run, Parser.run]
    exact (p.alike_run diagnostics diagnostics' input).bind fun _ => .refl _
  | _, .all p, input => by
    rw [Parser.run, Parser.run]
    exact (p.alike_run diagnostics diagnostics' input).bind fun _ => .refl _
  | _, .guarded _ p, input => by
    -- A fault that is caught gives the same answer, reported or not.
    have h := p.alike_run diagnostics diagnostics' input
    unfold Alike at h
    rw [Parser.run, Parser.run, Alike, ← h]
    cases hp : (p.run diagnostics input).outcome with
    | error fault => rfl
    | ok m => exact h
  | _, .traced p, input => by
    rw [Parser.run, Parser.run]
    exact ((p.alike_run diagnostics diagnostics' input).reporting _ _).before _ _
  | _, .described _ p, input => by
    rw [Parser.run, Parser.run]
    exact p.alike_run diagnostics diagnostics' input

theorem Parsers.alike_runAll (diagnostics diagnostics' : Diagnostics) :
    {α : Type} → (ps : Parsers α) → (input : List Char) →
      Alike (ps.runAll diagnostics input) (ps.runAll diagnostics' input)
  | _, .nil, _ => .refl _
  | _, .cons p ps, input => by
    rw [Parsers.runAll, Parsers.runAll]
    exact (p.alike_run diagnostics diagnostics' input).ifFound fun _ rest =>
      (ps.alike_runAll diagnostics diagnostics' rest).ifFound fun _ _ => .refl _

theorem Parsers.alike_runFirst (diagnostics diagnostics' : Diagnostics) :
    {α : Type} → (ps : Parsers α) → (input : List Char) →
      Alike (ps.runFirst diagnostics input) (ps.runFirst diagnostics' input)
  | _, .nil, _ => .refl _
  | _, .cons p ps, input => by
    rw [Parsers.runFirst, Parsers.runFirst]
    refine (p.alike_run diagnostics diagnostics' input).bind fun m => ?_
    cases m with
    | found => exact .refl _
    | absent => exact ps.alike_runFirst diagnostics diagnostics' input

theorem Parsers.alike_runEach (diagnostics diagnostics' : Diagnostics) :
    {α : Type} → (ps : Parsers α) → (input : List Char) → (last : Match α) →
      Alike (ps.runEach diagnostics input last) (ps.runEach diagnostics' input last)
  | _, .nil, _, _ => .refl _
  | _, .cons p ps, input, _ => by
    rw [Parsers.runEach, Parsers.runEach]
    exact (p.alike_run diagnostics diagnostics' input).ifFound fun _ _ =>
      ps.alike_runEach diagnostics diagnostics' input _

end

end RowQuery
