import RowQuery.Proofs.Parser.Suffix

/-!
Repetitions.

* `Rounds`: rounds of a step one after another, each of which leaves less than it was given.
* `Spent`: a text from which there is no further round.
* `Rounds.unique`: from every text there is one way at most to go to such a text.
* `exists_rounds`: there is one, and a repetition takes it.
* `Parser.repetition_eq`: what the repetitions of a parser answer.

Nothing is asked of the parser: it may match without taking anything, leave more than it was given, or
fault. A repetition ends all the same, because it goes on only while less and less is left.
-/
namespace RowQuery

variable {α : Type} {step : List Char → Run (Match α)} {s last last' : List Char}
  {rounds rounds' : List (α × List Char)}

/-! ## Rounds -/

/-- Rounds one after another, each of which matches and leaves less than it was given. They are listed
with their values and with what they leave; `last` is what is left in the end. -/
inductive Rounds (step : List Char → Run (Match α)) :
    List Char → List (α × List Char) → List Char → Prop
  | nil {s : List Char} : Rounds step s [] s
  | cons {s r last : List Char} {a : α} {rounds : List (α × List Char)}
      (h : (step s).outcome = .ok (.found a r)) (hlt : Text.size r < Text.size s)
      (hr : Rounds step r rounds last) : Rounds step s ((a, r) :: rounds) last

/-- There is no further round: the step does not match, leaves no less than it was given, or faults. -/
def Spent (step : List Char → Run (Match α)) (s : List Char) : Prop :=
  ∀ a r, (step s).outcome = .ok (.found a r) → Text.size s ≤ Text.size r

/-- Where the rounds begin decides what they are, if they go on as long as they can. -/
theorem Rounds.unique (h : Rounds step s rounds last) (hl : Spent step last)
    (h' : Rounds step s rounds' last') (hl' : Spent step last') : rounds' = rounds ∧ last' = last := by
  induction h generalizing rounds' with
  | nil =>
    cases h' with
    | nil => exact ⟨rfl, rfl⟩
    | cons hs hlt _ => exact absurd hlt (Nat.not_lt_of_le (hl _ _ hs))
  | @cons s r last a rounds hs hlt _ ih =>
    cases h' with
    | nil => exact absurd hlt (Nat.not_lt_of_le (hl' _ _ hs))
    | cons hs' _ hr' =>
      rw [hs] at hs'
      cases hs'
      obtain ⟨rfl, rfl⟩ := ih hl hr'
      exact ⟨rfl, rfl⟩

/-- Rounds that go on as long as they can begin with a round, if there is one. -/
theorem Rounds.ne_nil_iff (h : Rounds step s rounds last) (hl : Spent step last) :
    rounds ≠ [] ↔ ∃ a r, (step s).outcome = .ok (.found a r) ∧ Text.size r < Text.size s := by
  cases h with
  | nil =>
    constructor
    · intro h
      exact absurd rfl h
    · rintro ⟨a, r, hs, hlt⟩
      exact absurd hlt (Nat.not_lt_of_le (hl a r hs))
  | cons hs hlt _ => exact ⟨fun _ => ⟨_, _, hs, hlt⟩, fun _ => List.cons_ne_nil _ _⟩

/-- From every text there are rounds that go on as long as they can. A repetition that may take more
rounds than the text has bytes takes just these, and ends with their values or with the fault of the step
after them. -/
theorem exists_rounds (step : List Char → Run (Match α)) {n : Nat} {s : List Char}
    (hn : Text.size s < n) :
    ∃ rounds last, Rounds step s rounds last ∧ Spent step last ∧
      (repeatFrom step n s).outcome =
        (step last).outcome.map fun _ => (rounds.map Prod.fst, last) := by
  induction n generalizing s with
  | zero => exact absurd hn (Nat.not_lt_zero _)
  | succ n ih =>
    simp only [repeatFrom, Run.outcome_bind]
    cases hs : (step s).outcome with
    | error fault =>
      refine ⟨[], s, .nil, fun a r h => ?_, by rw [hs]; rfl⟩
      rw [hs] at h
      cases h
    | ok m =>
      cases m with
      | absent =>
        refine ⟨[], s, .nil, fun a r h => ?_, by rw [hs]; rfl⟩
        rw [hs] at h
        cases h
      | found a r =>
        by_cases hlt : Text.size r < Text.size s
        · obtain ⟨rounds, last, hr, hl, hrest⟩ := ih (Nat.lt_of_lt_of_le hlt (Nat.le_of_lt_succ hn))
          refine ⟨(a, r) :: rounds, last, .cons hs hlt hr, hl, ?_⟩
          simp only [Except.bind, if_pos hlt, Run.outcome_bind, hrest]
          cases (step last).outcome <;> rfl
        · -- The round leaves no less than it was given, so its value is dropped.
          refine ⟨[], s, .nil, fun b t h => ?_, ?_⟩
          · rw [hs] at h
            cases h
            exact Nat.le_of_not_lt hlt
          · simp only [Except.bind, if_neg hlt, hs]
            rfl

/-! ## The repetitions of a parser -/

namespace Parser

/-- From every input of a parser there is exactly one way of rounds that goes on as long as it can. The
repetitions of the parser answer with the values of these rounds and with what they leave, if there are
enough of them. If the parser faults after the last round, they end with that fault. -/
theorem repetition_eq (diagnostics : Diagnostics) (p : Parser α) (input : List Char) :
    ∃ rounds last, Rounds (p.run diagnostics) input rounds last ∧ Spent (p.run diagnostics) last ∧
      (∀ rounds' last', Rounds (p.run diagnostics) input rounds' last' →
        Spent (p.run diagnostics) last' → rounds' = rounds ∧ last' = last) ∧
      (∀ m, (p.run diagnostics last).outcome = .ok m →
        (p.zeroOrMore.run diagnostics input).outcome = .ok (.found (rounds.map Prod.fst) last) ∧
        (∀ n, ((Parser.atLeast n p).run diagnostics input).outcome =
          .ok (if n ≤ rounds.length then .found (rounds.map Prod.fst) last else .absent)) ∧
        ((∃ values rest, (p.oneOrMore.run diagnostics input).outcome = .ok (.found values rest)) ↔
          ∃ a r, (p.run diagnostics input).outcome = .ok (.found a r) ∧
            Text.size r < Text.size input)) ∧
      ∀ fault, (p.run diagnostics last).outcome = .error fault →
        (p.zeroOrMore.run diagnostics input).outcome = .error fault ∧
        (∀ n, ((Parser.atLeast n p).run diagnostics input).outcome = .error fault) ∧
        (p.oneOrMore.run diagnostics input).outcome = .error fault := by
  obtain ⟨rounds, last, hrounds, hlast, hrun⟩ :=
    exists_rounds (p.run diagnostics) (Nat.lt_succ_self (Text.size input))
  have hrepeated : (repeated (p.run diagnostics) input).outcome =
      (p.run diagnostics last).outcome.map fun _ => (rounds.map Prod.fst, last) := hrun
  refine ⟨rounds, last, hrounds, hlast, fun rounds' last' h' hl' => hrounds.unique hlast h' hl',
    fun m hm => ?_, fun fault hfault => ?_⟩
  · rw [hm] at hrepeated
    simp only [run, Run.outcome_bind, hrepeated]
    refine ⟨rfl, fun n => by simp [Except.map, Except.bind, Run.done], ?_⟩
    rw [← hrounds.ne_nil_iff hlast]
    cases rounds with
    | nil => simp [Except.map, Except.bind, Run.done]
    | cons round rounds => simp [Except.map, Except.bind, Run.done]
  · rw [hfault] at hrepeated
    simp only [run, Run.outcome_bind, hrepeated]
    exact ⟨rfl, fun n => rfl, rfl⟩

/-- The round that takes nothing is not among the values. -/
example : (((Parser.literal "ab").optional.zeroOrMore).run .silent "ababc".toList).outcome =
    .ok (.found [some "ab", some "ab"] ['c']) := by rfl

end Parser
end RowQuery
