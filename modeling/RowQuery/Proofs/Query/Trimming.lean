import RowQuery.Proofs.Query.Conjunct
import RowQuery.Proofs.Query.Spelling

/-!
White space around a query.

* `Scan.Extends`: a token takes the same of a text that goes on with white space.
* `Scan.Trims`: nor does white space before or behind a text make a difference to a rule.
* `Scan.Trims.chain_append`: what is read of a text piece by piece is read of the text with white space
  behind it.
* `Query.parse_eq_ok_iff_untrimmed`: a query reads as the text that is left when it is trimmed.

The query is trimmed once as a whole, and each token drops the white space on both of its sides. What a token
takes ends with a character other than white space, so the tokens of a text with white space behind it are
those of the text itself.
-/
namespace RowQuery

open Text (Blank trimStart)

/-! ## Scans -/

namespace Scan

variable {α β : Type} {p p' : Scan α} {q : Scan β}

/-- Of a text that goes on with white space a token takes the same, and leaves the white space. -/
def Extends (p : Scan α) : Prop :=
  ∀ s w, Blank w → p (s ++ w) = (p s).map fun (a, r) => (a, r ++ w)

/-- White space before a text or behind it makes no difference to what is read. None is left at the front. -/
structure Trims (p : Scan α) : Prop where
  front : ∀ s, p (trimStart s) = p s
  back : ∀ s w, Blank w → p (s ++ w) = (p s).map fun (a, r) => (a, trimStart (r ++ w))
  rest : ∀ s a r, p s = some (a, r) → trimStart r = r

theorem Extends.map (h : p.Extends) (f : α → β) : (p.map f).Extends := by
  intro s w hw
  rw [Scan.map, Scan.map, h s w hw]
  cases p s <;> rfl

theorem chain_nil_iff {s : List Char} : p.Chain s [] ↔ s = [] := by
  constructor
  · intro h
    cases h
    rfl
  · rintro rfl
    exact .nil

theorem chain_cons_iff {s : List Char} {a : α} {as : List α} :
    p.Chain s (a :: as) ↔ ∃ r, p s = some (a, r) ∧ p.Chain r as := by
  constructor
  · intro h
    cases h with
    | cons ha hr => exact ⟨_, ha, hr⟩
  · rintro ⟨r, ha, hr⟩
    exact .cons ha hr

/-- A token between white space. -/
theorem Extends.trim (h : p.Extends) (hnil : p [] = none) : p.trim.Trims where
  front := fun s => by rw [Scan.trim, Scan.trim, Text.trimStart_trimStart]
  rest := fun s a r hr => by
    obtain ⟨t, -, rfl⟩ := trim_eq_some_iff.mp hr
    exact Text.trimStart_trimStart t
  back := fun s w hw => by
    rw [Scan.trim, Scan.trim]
    cases hs : trimStart s with
    | nil =>
      rw [← Text.trimStart_trimStart_append, hs, List.nil_append, Text.trimStart_eq_nil hw, hnil]
      rfl
    | cons c r =>
      have hc : Text.isBlank c = false := Text.isBlank_of_trimStart_eq_cons hs
      have happend : trimStart (s ++ w) = c :: r ++ w := by
        rw [← Text.trimStart_trimStart_append, hs, List.cons_append, Text.trimStart_cons_ink hc]
      rw [happend, h _ w hw]
      cases p (c :: r) with
      | none => rfl
      | some b => exact congrArg (fun t => some (b.1, t)) (Text.trimStart_trimStart_append b.2 w).symm

namespace Trims

theorem map (h : p.Trims) (f : α → β) : (p.map f).Trims where
  front := fun s => by rw [Scan.map, Scan.map, h.front]
  back := fun s w hw => by
    rw [Scan.map, Scan.map, h.back s w hw]
    cases p s <;> rfl
  rest := fun s b r hr => by
    obtain ⟨a, ha, -⟩ := map_eq_some_iff.mp hr
    exact h.rest s a r ha

theorem keep (h : p.Trims) (test : α → Bool) : (p.keep test).Trims where
  front := fun s => by rw [Scan.keep, Scan.keep, h.front]
  back := fun s w hw => by
    rw [Scan.keep, Scan.keep, h.back s w hw]
    cases p s with
    | none => rfl
    | some b => cases ht : test b.1 <;> simp [Option.filter, ht]
  rest := fun s a r hr => h.rest s a r (Option.filter_eq_some_iff.mp hr).1

theorem orElse (h : p.Trims) (h' : p'.Trims) : (p.orElse p').Trims where
  front := fun s => by rw [Scan.orElse, Scan.orElse, h.front, h'.front]
  back := fun s w hw => by
    rw [Scan.orElse, Scan.orElse, h.back s w hw, h'.back s w hw]
    cases p s <;> rfl
  rest := fun s a r hr => by
    rcases Option.or_eq_some_iff.mp hr with hr | ⟨-, hr⟩
    · exact h.rest s a r hr
    · exact h'.rest s a r hr

/-- What one scan leaves the next one reads, and of the white space behind it the next one sees nothing. -/
theorem pair (h : p.Trims) (h' : q.Trims) : (p.pair q).Trims where
  front := fun s => by rw [Scan.pair, Scan.pair, h.front]
  back := fun s w hw => by
    rw [Scan.pair, Scan.pair, h.back s w hw]
    cases p s with
    | none => rfl
    | some b =>
      show (q (trimStart (b.2 ++ w))).map _ = ((q b.2).map _).map _
      rw [h'.front, h'.back b.2 w hw]
      cases q b.2 <;> rfl
  rest := fun s ab r hr => by
    obtain ⟨t, -, hb⟩ := pair_eq_some_iff.mp hr
    exact h'.rest t ab.2 r hb

/-- What is read piece by piece of a text is read of it with white space behind it. -/
theorem chain_append (h : p.Trims) {w : List Char} (hw : Blank w) {s : List Char} {as : List α} :
    p.Chain (trimStart (s ++ w)) as ↔ p.Chain (trimStart s) as := by
  induction as generalizing s with
  | nil =>
    rw [chain_nil_iff, chain_nil_iff, ← Text.trimStart_trimStart_append]
    cases hs : trimStart s with
    | nil => simp [Text.trimStart_eq_nil hw]
    | cons c r =>
      rw [List.cons_append, Text.trimStart_cons_ink (Text.isBlank_of_trimStart_eq_cons hs)]
      simp
  | cons a as ih =>
    rw [chain_cons_iff, chain_cons_iff, h.front, h.front, h.back s w hw]
    constructor
    · rintro ⟨r', ha, hr⟩
      obtain ⟨⟨a', r⟩, hs, he⟩ := Option.map_eq_some_iff.mp ha
      cases he
      rw [ih, h.rest s a r hs] at hr
      exact ⟨r, hs, hr⟩
    · rintro ⟨r, hs, hr⟩
      rw [← h.rest s a r hs, ← ih] at hr
      exact ⟨trimStart (r ++ w), by rw [hs]; rfl, hr⟩

/-- The first piece drops the white space before it. -/
theorem chain_trimStart (h : p.Trims) {s : List Char} {as : List α} (hne : as ≠ []) :
    p.Chain (trimStart s) as ↔ p.Chain s as := by
  obtain ⟨a, as, rfl⟩ := List.exists_cons_of_ne_nil hne
  rw [chain_cons_iff, chain_cons_iff, h.front]

/-- If there are pieces at all, the white space around the text makes no difference to them. -/
theorem chain_trim (h : p.Trims) {s : List Char} {as : List α} (hne : as ≠ []) :
    p.Chain (Text.trim s) as ↔ p.Chain s as := by
  obtain ⟨w, hw, hs⟩ := Text.exists_eq_trimEnd_append (trimStart s)
  rw [← h.chain_trimStart (s := s) hne, ← h.chain_trimStart hne, ← h.chain_append hw, Text.trim, ← hs,
    Text.trimStart_trimStart]

end Trims
end Scan

/-! ## Tokens -/

/-- What a token takes ends with a character other than white space. So a token of a text with white space
behind it is one of the text itself, and it is enough that no token is lost. -/
theorem Scan.Settled.extends {α : Type} {p : Scan α} (h : p.Settled)
    (hkeep : ∀ s w, Blank w → (p s).isSome = true → (p (s ++ w)).isSome = true) : p.Extends := by
  intro s w hw
  cases happend : p (s ++ w) with
  | none =>
    have hnone : p s = none := by
      by_contra hne
      have hsome := hkeep s w hw (Option.isSome_iff_ne_none.mpr hne)
      rw [happend] at hsome
      cases hsome
    rw [hnone]
    rfl
  | some b =>
    obtain ⟨a, r⟩ := b
    obtain ⟨t, ht, hsolid, hread⟩ := h _ _ _ happend
    obtain ⟨r', rfl, rfl⟩ : ∃ r', s = t ++ r' ∧ r = r' ++ w := by
      rcases List.append_eq_append_iff.mp ht with ⟨u, rfl, rfl⟩ | ⟨u, hs, hr⟩
      · -- Of the white space nothing can be taken.
        cases u using List.reverseRecOn with
        | nil => exact ⟨[], by simp, by simp⟩
        | append_singleton u c =>
          have hink := hsolid.last c (by simp)
          rw [hw c (by simp)] at hink
          cases hink
      · exact ⟨u, hs, hr⟩
    rw [hread r' (List.prefix_append _ _)]
    rfl

namespace Token

variable {d : Char}

theorem isSome_run?_append {f : Char → Bool} {s : List Char} (h : (run? f s).isSome = true) (w : List Char) :
    (run? f (s ++ w)).isSome = true := by
  cases s with
  | nil => cases h
  | cons c s =>
    cases hc : f c with
    | false => simp [run?, hc] at h
    | true => simp [run?, hc]

theorem extends_word? : word?.Extends := settled_word?.extends fun _ w _ h => isSome_run?_append h w

theorem extends_name? : name?.Extends := by
  refine settled_name?.extends fun s w _ h => ?_
  unfold name? at h
  split at h
  · cases h
  · next c r =>
    split at h
    · next hc =>
      rw [List.cons_append, name?, if_pos hc]
      exact isSome_run?_append h w
    · cases h

theorem extends_quotedName? : quotedName?.Extends := by
  refine settled_quotedName?.extends fun s w _ h => ?_
  obtain ⟨⟨body, r⟩, hsome⟩ := Option.isSome_iff_exists.mp h
  obtain ⟨rfl, hne, hbody⟩ := quotedName?_eq_some_iff.mp hsome
  have happend := quotedName?_eq_some_iff (r := r ++ w).mpr ⟨rfl, hne, hbody⟩
  simpa using congrArg Option.isSome happend

/-- White space is no part of a word, so behind `NOT` it is as good as the end of the text. -/
theorem extends_not? : not?.Extends := by
  refine settled_not?.extends fun s w hw h => ?_
  unfold not? at h
  split at h
  · next r =>
    split at h
    · cases h
    · next hword =>
      have hhead : Regex.inWord false (r ++ w).head? = false := by
        cases r with
        | nil => exact inWord_of_apart hw.apart
        | cons c r => simpa using hword
      rw [List.cons_append, List.cons_append, List.cons_append, not?, hhead]
      rfl
  · cases h

theorem extends_delimited? (hd : Text.isBlank d = false) : (delimited? d).Extends := by
  refine (settled_delimited? hd).extends fun s w _ h => ?_
  unfold delimited? at h
  split at h
  · cases h
  · next c r =>
    split at h
    · next hc =>
      rw [Option.isSome_map] at h
      rw [List.cons_append, delimited?, if_pos hc, Option.isSome_map]
      exact isSome_inner_append h w
    · cases h

end Token

namespace Grammar

open Token (delimited? word? name? quotedName? not?)

theorem trims_scanNot : scanNot.Trims := (Token.extends_not?.map _).trim rfl

theorem trims_scanColumnWhere (known : String → Bool) : (scanColumnWhere known).Trims :=
  (((Token.extends_quotedName?.map _).trim rfl).keep known).orElse
    (((Token.extends_name?.map _).trim rfl).keep known)

theorem trims_scanPattern : scanPattern.Trims :=
  (((Token.extends_delimited? (by decide)).map _).trim rfl |>.map _).orElse
    ((((Token.extends_delimited? (by decide)).map _).trim rfl |>.map _).orElse
      ((Token.extends_word?.map _).trim rfl |>.map _))

theorem trims_scanNegatable : scanNegatable.Trims :=
  ((trims_scanNot.pair trims_scanPattern).map _).orElse (trims_scanPattern.map _)

/-- White space around a term makes no difference to it. -/
theorem trims_scanTermWhere (known : String → Bool) : (scanTermWhere known).Trims :=
  ((trims_scanNot.pair ((trims_scanColumnWhere known).pair trims_scanPattern)).map _).orElse
    ((((trims_scanColumnWhere known).pair trims_scanNegatable).map _).orElse (trims_scanNegatable.map _))

theorem parse?_trim (diagnostics : Diagnostics) (directory : Directory) (text : List Char) :
    parse? diagnostics directory (Text.trim text) = parse? diagnostics directory text := by
  refine Option.ext fun terms => ?_
  rw [parse?_iff, parse?_iff]
  exact and_congr_right fun hne => (trims_scanTermWhere (isKnown directory)).chain_trim hne

end Grammar

namespace Query

theorem parse_eq_ok_iff {diagnostics : Diagnostics} {directory : Directory} {query : String}
    {terms : List Term} : parse diagnostics directory query = .ok terms ↔
      Grammar.parse? diagnostics directory query.toList = some terms := by
  have hnil : Grammar.parse? diagnostics directory [] ≠ some terms := by
    intro h
    obtain ⟨hne, hchain⟩ := (Grammar.parse?_iff _ _ _ _).mp h
    exact Grammar.ne_nil_of_chain hne hchain rfl
  rw [← Grammar.parse?_trim]
  simp only [parse]
  split
  · next hempty =>
    rw [List.isEmpty_iff.mp hempty]
    exact iff_of_false (by simp) hnil
  · split
    · next term rest hparse => simp [hparse]
    · next hparse =>
      refine iff_of_false (by simp) fun h => ?_
      obtain ⟨hne, -⟩ := (Grammar.parse?_iff _ _ _ _).mp h
      obtain ⟨term, rest, rfl⟩ := List.exists_cons_of_ne_nil hne
      exact hparse term rest h

/-- The filter of a query is that of its terms. -/
theorem compile_of_parse? {diagnostics : Diagnostics} {directory : Directory} {query : String}
    {terms : List Term} (h : Grammar.parse? diagnostics directory query.toList = some terms) :
    compile diagnostics directory query = (compileTerms directory terms).map .allOf := by
  rw [← Grammar.parse?_trim] at h
  obtain ⟨hterms, hchain⟩ := (Grammar.parse?_iff _ _ _ _).mp h
  exact compile_of_terms (Grammar.ne_nil_of_chain hterms hchain) hterms h

/-- The terms of a query are those of its text as it is. White space before and behind it makes no
difference. -/
theorem parse_eq_ok_iff_untrimmed (diagnostics : Diagnostics) (directory : Directory) (query : String) :
    Grammar.parse? diagnostics directory query.toList =
        Grammar.parse? diagnostics directory (Text.trim query.toList) ∧
      ∀ terms, parse diagnostics directory query = .ok terms ↔
        Grammar.parse? diagnostics directory query.toList = some terms :=
  ⟨(Grammar.parse?_trim _ _ _).symm, fun _ => parse_eq_ok_iff⟩

end Query
end RowQuery
