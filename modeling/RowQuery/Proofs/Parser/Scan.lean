import RowQuery.Proofs.Parser.Suffix

/-!
Parsers without faults, as functions.

* `Scan`: what is read at the front of a text, and what is left.
* `Parser.Computes`: a parser answers as a scan does, whatever is reported meanwhile.
* `Scan.Chain`: a text read piece by piece to its end.
* `Parser.Computes.parse?_iff`: a parser of one piece or more answers just the pieces of the text.
-/
namespace RowQuery

/-- What is read at the front of a text, if anything, and what is left of the text. -/
abbrev Scan (α : Type) := List Char → Option (α × List Char)

namespace Scan

variable {α β : Type}

/-- A scan with its value changed. -/
def map (f : α → β) (p : Scan α) : Scan β := fun s => (p s).map fun (a, r) => (f a, r)

/-- A scan with white space dropped before it and after it. -/
def trim (p : Scan α) : Scan α := fun s =>
  (p (Text.trimStart s)).map fun (a, r) => (a, Text.trimStart r)

/-- A scan followed by another. -/
def pair (p : Scan α) (q : Scan β) : Scan (α × β) := fun s =>
  match p s with
  | none => none
  | some (a, r) => (q r).map fun (b, r) => ((a, b), r)

/-- The values of a scan that pass a test. -/
def keep (p : Scan α) (test : α → Bool) : Scan α := fun s =>
  (p s).filter fun (a, _) => test a

/-- The first of two scans, or else the second. -/
def orElse (p q : Scan α) : Scan α := fun s => (p s).or (q s)

section

variable {p : Scan α} {q : Scan β} {f : α → β} {s r t : List Char} {a : α} {b : β}

theorem map_eq_some_iff : p.map f s = some (b, r) ↔ ∃ a, p s = some (a, r) ∧ f a = b := by
  constructor
  · intro h
    obtain ⟨⟨a, r'⟩, ha, he⟩ := Option.map_eq_some_iff.mp h
    cases he
    exact ⟨a, ha, rfl⟩
  · rintro ⟨a, ha, rfl⟩
    rw [map, ha]
    rfl

theorem map_eq_none_iff : p.map f s = none ↔ p s = none := Option.map_eq_none_iff

theorem trim_eq_some_iff :
    p.trim s = some (a, r) ↔ ∃ t, p (Text.trimStart s) = some (a, t) ∧ Text.trimStart t = r := by
  constructor
  · intro h
    obtain ⟨⟨a, t⟩, ha, he⟩ := Option.map_eq_some_iff.mp h
    cases he
    exact ⟨t, ha, rfl⟩
  · rintro ⟨t, ha, rfl⟩
    rw [trim, ha]
    rfl

theorem pair_eq_some_iff :
    p.pair q s = some ((a, b), r) ↔ ∃ t, p s = some (a, t) ∧ q t = some (b, r) := by
  constructor
  · intro h
    rw [pair] at h
    split at h
    · cases h
    · next a' t ha =>
      obtain ⟨⟨b, r'⟩, hb, he⟩ := Option.map_eq_some_iff.mp h
      cases he
      exact ⟨t, ha, hb⟩
  · rintro ⟨t, ha, hb⟩
    rw [pair, ha]
    show (q t).map _ = _
    rw [hb]
    rfl

theorem pair_eq_none_left (h : p s = none) : p.pair q s = none := by
  rw [pair, h]

theorem pair_eq_none_right (h : p s = some (a, t)) (hq : q t = none) : p.pair q s = none := by
  rw [pair, h]
  show (q t).map _ = none
  rw [hq]
  rfl

end

/-- What one scan after another gives, a number of times at most. -/
def repeated (p : Scan α) : Nat → List Char → List α × List Char
  | 0, s => ([], s)
  | n + 1, s =>
    match p s with
    | none => ([], s)
    | some (a, r) =>
      let (as, r) := p.repeated n r
      (a :: as, r)

/-- A text is read to its end, one value after another. -/
inductive Chain (p : Scan α) : List Char → List α → Prop
  | nil : Chain p [] []
  | cons {s r : List Char} {a : α} {as : List α} (h : p s = some (a, r)) (hr : Chain p r as) :
      Chain p s (a :: as)

/-- A scan takes something. -/
def Shrinks (p : Scan α) : Prop :=
  ∀ s a r, p s = some (a, r) → r.length < s.length

theorem Shrinks.nil {p : Scan α} (h : p.Shrinks) : p [] = none := by
  cases hp : p [] with
  | none => rfl
  | some b =>
    have := h [] b.1 b.2 hp
    simp at this

namespace Shrinks

variable {p p' : Scan α} {q : Scan β}

theorem map (h : p.Shrinks) (f : α → β) : (p.map f).Shrinks := by
  intro s b r hb
  obtain ⟨a, ha, -⟩ := map_eq_some_iff.mp hb
  exact h s a r ha

theorem trim (h : p.Shrinks) : p.trim.Shrinks := by
  intro s a r ha
  obtain ⟨t, ht, rfl⟩ := trim_eq_some_iff.mp ha
  have hr := (Text.trimStart_suffix t).length_le
  have hs := (Text.trimStart_suffix s).length_le
  have := h _ a t ht
  omega

theorem keep (h : p.Shrinks) (test : α → Bool) : (p.keep test).Shrinks := by
  intro s a r ha
  exact h s a r (Option.filter_eq_some_iff.mp ha).1

theorem orElse (h : p.Shrinks) (h' : p'.Shrinks) : (p.orElse p').Shrinks := by
  intro s a r ha
  rcases Option.or_eq_some_iff.mp ha with ha | ⟨-, ha⟩
  · exact h s a r ha
  · exact h' s a r ha

theorem pair (h : p.Shrinks) (h' : q.Shrinks) : (p.pair q).Shrinks := by
  rintro s ⟨a, b⟩ r hab
  obtain ⟨t, ha, hb⟩ := pair_eq_some_iff.mp hab
  exact Nat.lt_trans (h' t b r hb) (h s a t ha)

end Shrinks

/-- A chain is what the scan gives if it is repeated often enough. -/
theorem chain_iff {p : Scan α} (hp : p.Shrinks) {n : Nat} {s : List Char} (h : s.length < n)
    (as : List α) : p.Chain s as ↔ p.repeated n s = (as, []) := by
  induction n generalizing s as with
  | zero => exact absurd h (Nat.not_lt_zero _)
  | succ n ih =>
    constructor
    · intro hc
      cases hc with
      | nil => simp [repeated, hp.nil]
      | @cons _ r a as hs hr =>
        have := hp s a r hs
        simp [repeated, hs, (ih (by omega) as).mp hr]
    · intro hc
      cases hs : p s with
      | none =>
        simp only [repeated, hs, Prod.mk.injEq] at hc
        obtain ⟨rfl, rfl⟩ := hc
        exact .nil
      | some b =>
        obtain ⟨a, r⟩ := b
        have hlt := hp s a r hs
        simp only [repeated, hs, Prod.mk.injEq] at hc
        obtain ⟨rfl, hr⟩ := hc
        exact .cons hs ((ih (by omega) _).mpr (by rw [← hr]))

end Scan

namespace Match

/-- The answer with a value and what is left, if there is one. -/
def ofOption {α : Type} : Option (α × List Char) → Match α
  | none => .absent
  | some (a, r) => .found a r

end Match

namespace Parser

/-- A parser answers as a scan does, without a fault. -/
def Computes {α : Type} (p : Parser α) (f : Scan α) : Prop :=
  ∀ diagnostics s, (p.run diagnostics s).outcome = .ok (.ofOption (f s))

namespace Computes

variable {α β : Type} {p : Parser α} {q : Parser β} {f : Scan α} {g : Scan β}

/-- A run that goes on after an answer. -/
theorem outcome_bind {run : Run α} {a : α} (h : run.outcome = .ok a) (next : α → Run β) :
    (run.bind next).outcome = (next a).outcome := by
  simp [Run.bind, h]

theorem regex {pattern : String} {regex : Regex} {f : Scan String}
    (h : ∀ s, regexMatch regex 0 s = .ofOption (f s)) : Computes (.regex pattern regex) f := by
  intro diagnostics s
  rw [Parser.run, h]
  rfl

theorem capture {pattern : String} {regex : Regex} {group : Nat} {f : Scan String}
    (h : ∀ s, regexMatch regex group s = .ofOption (f s)) :
    Computes (.capture pattern regex group) f := by
  intro diagnostics s
  rw [Parser.run, h]
  rfl

theorem trim (hp : p.Computes f) : p.trim.Computes f.trim := by
  intro diagnostics s
  rw [Parser.run, Run.ifFound, outcome_bind (hp diagnostics (Text.trimStart s)), Scan.trim]
  cases f (Text.trimStart s) <;> rfl

theorem pair (hp : p.Computes f) (hq : q.Computes g) : (p.pair q).Computes (f.pair g) := by
  intro diagnostics s
  rw [Parser.run, Run.ifFound, outcome_bind (hp diagnostics s), Scan.pair]
  cases f s with
  | none => rfl
  | some a =>
    show (((q.run diagnostics a.2).ifFound _).outcome) = _
    rw [Run.ifFound, outcome_bind (hq diagnostics a.2)]
    show _ = Except.ok (Match.ofOption ((g a.2).map _))
    cases g a.2 <;> rfl

theorem map (hp : p.Computes f) (h : α → β) : (p.map h).Computes (f.map h) := by
  intro diagnostics s
  rw [Parser.map, Parser.run, Run.ifFound, outcome_bind (hp diagnostics s), Scan.map]
  cases f s <;> rfl

theorem keep (hp : p.Computes f) (test : α → Bool) : (p.keep test).Computes (f.keep test) := by
  intro diagnostics s
  rw [Parser.keep, Parser.run, Run.ifFound, outcome_bind (hp diagnostics s), Scan.keep]
  cases f s with
  | none => rfl
  | some a =>
    rw [Option.filter_some]
    cases ht : test a.1 <;> simp [Match.ofOption, Run.lift, Run.done, Run.bind, ht]

theorem described (hp : p.Computes f) (description : String) :
    (p.described description).Computes f := by
  intro diagnostics s
  rw [Parser.run]
  exact hp diagnostics s

theorem traced (hp : p.Computes f) : p.traced.Computes f := by
  intro diagnostics s
  rw [Parser.run, Run.before, outcome_bind (hp diagnostics s)]

theorem alternation_singleton (hp : p.Computes f) :
    (Parser.alternation (.ofList [p])).Computes f := by
  intro diagnostics s
  simp only [Parser.run, Parsers.ofList, Parsers.runFirst]
  rw [outcome_bind (hp diagnostics s)]
  cases f s <;> rfl

theorem alternation_cons {ps : List (Parser α)} {g : Scan α} (hp : p.Computes f)
    (hps : (Parser.alternation (.ofList ps)).Computes g) :
    (Parser.alternation (.ofList (p :: ps))).Computes (f.orElse g) := by
  intro diagnostics s
  have hps := hps diagnostics s
  simp only [Parser.run, Parsers.ofList, Parsers.runFirst] at hps ⊢
  rw [outcome_bind (hp diagnostics s), Scan.orElse]
  cases f s with
  | none => exact hps
  | some a => rfl

/-- What a parser gives that is repeated as long as it takes something. -/
theorem outcome_repeatFrom (hp : p.Computes f) (hf : f.Shrinks) (hs : p.Sound)
    (diagnostics : Diagnostics) (n : Nat) (s : List Char) :
    (repeatFrom (p.run diagnostics) n s).outcome = .ok (f.repeated n s) := by
  induction n generalizing s with
  | zero => rfl
  | succ n ih =>
    rw [repeatFrom, outcome_bind (hp diagnostics s), Scan.repeated]
    have hrun := hp diagnostics s
    cases hfs : f s with
    | none => rfl
    | some b =>
      obtain ⟨a, r⟩ := b
      rw [hfs] at hrun
      have hend : r <:+ s := Parser.leavesSuffix_run diagnostics p hs s a r hrun
      show (if Text.size r < Text.size s then
        (repeatFrom (p.run diagnostics) n r).bind _ else Run.done ([], s)).outcome = _
      rw [if_pos (Text.size_lt_of_suffix hend (hf s a r hfs)), outcome_bind (ih r)]
      rfl

/-- The run of a parser of one piece or more to the end of the text. -/
theorem outcome_all (hp : p.Computes f) (hf : f.Shrinks) (hs : p.Sound) (diagnostics : Diagnostics)
    (s : List Char) :
    ((Parser.all (.oneOrMore p)).run diagnostics s).outcome =
      .ok (match f.repeated (Text.size s + 1) s with
        | (a :: as, []) => .found (a :: as) []
        | _ => .absent) := by
  have hrun : ((Parser.oneOrMore p).run diagnostics s).outcome =
      .ok (if 1 ≤ (f.repeated (Text.size s + 1) s).1.length then
        .found (f.repeated (Text.size s + 1) s).1 (f.repeated (Text.size s + 1) s).2 else .absent) := by
    rw [Parser.run, repeated, outcome_bind (outcome_repeatFrom hp hf hs diagnostics _ s)]
    rfl
  rw [Parser.run, outcome_bind hrun]
  obtain ⟨as, r⟩ := f.repeated (Text.size s + 1) s
  cases as <;> cases r <;> rfl

/-- A guard changes nothing where there is no fault. -/
theorem outcome_guarded {diagnostics : Diagnostics} {s : List Char} {m : Match α}
    (h : (p.run diagnostics s).outcome = .ok m) (reported : Bool) :
    ((p.guarded reported).run diagnostics s).outcome = .ok m := by
  simp [Parser.run, h]

/-- A parser of one piece or more to the end of the text, in which no fault gets out, answers just the
pieces of the text. -/
theorem parse?_iff (hp : p.Computes f) (hf : f.Shrinks) (hs : p.Sound) (reported : Bool)
    (description : String) (diagnostics : Diagnostics) (s : List Char) (as : List α) :
    (Parser.guarded reported (.described description (.all (.oneOrMore p)))).parse? diagnostics s =
      some as ↔ as ≠ [] ∧ f.Chain s as := by
  have hrun := outcome_all hp hf hs diagnostics s
  have hrounds : s.length < Text.size s + 1 := Nat.lt_succ_of_le (Text.length_le_size s)
  rw [Scan.chain_iff hf hrounds, parse?, outcome_guarded (by rw [Parser.run, hrun])]
  obtain ⟨bs, r⟩ := f.repeated (Text.size s + 1) s
  cases bs with
  | nil =>
    constructor
    · intro h
      cases h
    · rintro ⟨hne, h⟩
      cases h
      exact absurd rfl hne
  | cons b bs =>
    cases r with
    | nil =>
      constructor
      · intro h
        cases h
        exact ⟨List.cons_ne_nil _ _, rfl⟩
      · rintro ⟨-, h⟩
        cases h
        rfl
    | cons c r =>
      constructor
      · intro h
        cases h
      · rintro ⟨-, h⟩
        cases h

end Computes
end Parser
end RowQuery
