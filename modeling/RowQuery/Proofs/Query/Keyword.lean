import RowQuery.Proofs.Query.Spelling
import RowQuery.Proofs.Query.Unchecked

/-!
Where `NOT` is a word.

* `Grammar.Unnegating`: a `NOT` with no pattern behind it.
* `Grammar.unnegating_of_word`: a word that begins with `NOT`, and is not negated, is such a `NOT`.
* `Grammar.next_of_unnegating`: the term behind it has a column, and a pattern for the column.
* `Grammar.word_not_ends_or_precedes_column`: where `NOT` is a word of a query's terms.

What else could stand behind such a `NOT` is no term at all: a colon with a name that stands for no column,
a column without a pattern, a quote or an expression without an end. There the whole query is refused.
-/
namespace RowQuery

/-- What a scan has read at some place of a list of values, and what it goes on with. -/
theorem Scan.Chain.getElem? {α : Type} {p : Scan α} {s : List Char} {as : List α} (h : p.Chain s as)
    {i : Nat} {a : α} (ha : as[i]? = some a) :
    ∃ t r, p t = some (a, r) ∧ p.Chain r (as.drop (i + 1)) := by
  induction h generalizing i with
  | nil => simp at ha
  | @cons s r b as hb hr ih =>
    cases i with
    | zero =>
      obtain rfl : b = a := by simpa using ha
      exact ⟨s, r, hb, hr⟩
    | succ i => exact ih (by simpa using ha)

namespace Grammar

open Token (not?)

variable {known : String → Bool} {s r : List Char} {term : Term} {terms : List Term}

/-- What ends a word ends a `NOT`. -/
theorem inWord_of_not_isWordChar {q : List Char} (h : ∀ c ∈ q.head?, Token.isWordChar c = false) :
    Regex.inWord false q.head? = false := by
  cases q with
  | nil => rfl
  | cons c q =>
    have hc : ¬Token.isWordChar c = true := by simp [h c rfl]
    by_cases hblank : Text.isBlank c = true
    · exact Unicode.Property.mem_word_of_isBlank hblank
    · have hmark : c = ':' ∨ c = '"' ∨ c = '/' := by
        by_contra hno
        push Not at hno
        exact hc (isWordChar_iff.mpr ⟨hno.1, hno.2.1, hno.2.2, by simpa using hblank⟩)
      rw [List.head?_cons]
      rcases hmark with rfl | rfl | rfl <;> decide +kernel

/-- A `NOT` with no pattern behind it. -/
structure Unnegating (s r : List Char) : Prop where
  read : ∃ w, scanNot s = some (w, r)
  no_pattern : scanPattern r = none

/-- The word that a pattern is, with what ends it. -/
theorem exists_of_scanPattern_word {text : String} (h : scanPattern s = some ((.word, text), r)) :
    ∃ t, Text.trimStart s = text.toList ++ t ∧ IsWord text.toList ∧
      (∀ c ∈ t.head?, Token.isWordChar c = false) ∧ r = Text.trimStart t := by
  rw [scanPattern_eq] at h
  obtain ⟨t, hpattern, rfl⟩ := Scan.trim_eq_some_iff.mp h
  unfold pattern? at hpattern
  split at hpattern
  · cases hpattern
  · split at hpattern
    · obtain ⟨_, -, he⟩ := Option.map_eq_some_iff.mp hpattern
      cases he
    split at hpattern
    · obtain ⟨_, -, he⟩ := Option.map_eq_some_iff.mp hpattern
      cases he
    next hs _ _ =>
      obtain ⟨⟨w, t'⟩, hw, he⟩ := Option.map_eq_some_iff.mp hpattern
      cases he
      obtain ⟨hsplit, hne, hall, hend⟩ := Token.run?_eq_some_iff.mp hw
      refine ⟨t, by rw [hs, hsplit, String.toList_ofList], ?_, hend, rfl⟩
      rw [String.toList_ofList]
      exact ⟨hne, fun c hc => isWordChar_iff.mp (hall c hc)⟩

/-- A word that begins with `NOT` and is not negated is that word alone, and nothing behind it can be
negated. -/
theorem unnegating_of_word {text : String} (h : scanNegatable s = some ((false, .word, text), r))
    (hnot : (not? text.toList).isSome = true) : text = "NOT" ∧ Unnegating s r := by
  rcases Option.or_eq_some_iff.mp h with h | ⟨hnone, h⟩
  · obtain ⟨_, -, he⟩ := Scan.map_eq_some_iff.mp h
    cases he
  have hpair : scanNot.pair scanPattern s = none := Scan.map_eq_none_iff.mp hnone
  obtain ⟨⟨kind, text'⟩, hpattern, he⟩ := Scan.map_eq_some_iff.mp h
  cases he
  obtain ⟨t, hs, hword, hend, rfl⟩ := exists_of_scanPattern_word hpattern
  obtain ⟨k, hk, hinside⟩ : ∃ k, text.toList = 'N' :: 'O' :: 'T' :: k ∧
      Regex.inWord false k.head? = false := by
    unfold not? at hnot
    split at hnot
    · next k hk => exact ⟨k, hk, by simpa using hnot⟩
    · cases hnot
  rw [hk] at hs hword
  cases k with
  | cons d k =>
    exact absurd hpair (pair_scanNot_ne_none hs hinside (isWordChar_iff.mpr (hword.all d (by simp))))
  | nil =>
    have hscan : scanNot s = some (String.ofList ['N', 'O', 'T'], Text.trimStart t) := by
      rw [scanNot, Scan.trim, hs]
      simp [Scan.map, not?, inWord_of_not_isWordChar hend]
    refine ⟨String.toList_inj.mp hk, ⟨_, hscan⟩, ?_⟩
    rw [Scan.pair, hscan] at hpair
    exact Option.map_eq_none_iff.mp hpair

/-- The term behind such a `NOT` has a column, and a pattern for the column. -/
theorem next_of_unnegating (h : Unnegating s r) (hrest : (scanTermWhere known).Chain r terms) :
    ∀ next ∈ terms.head?, next.column ≠ none ∧
      scanNot.pair ((scanColumnWhere known).pair scanPattern) s ≠ none := by
  obtain ⟨⟨w, hnot⟩, hpattern⟩ := h
  have hnegatable : scanNegatable r = none := scanNegatable_eq_none_of_scanPattern hpattern
  intro next hnext
  cases hrest with
  | nil => cases hnext
  | cons hterm _ =>
    cases hnext
    cases scanTermWhere_eq_some_iff.mp hterm with
    | negated hnot' => cases (scanNot_eq_none_of_scanPattern hpattern).symm.trans hnot'
    | bare _ hnegatable' => cases hnegatable.symm.trans hnegatable'
    | @column key _ _ _ y hcolumn hnegatable' =>
      have hbehind : scanPattern y ≠ none := fun hnone => by
        cases (scanNegatable_eq_none_of_scanPattern hnone).symm.trans hnegatable'
      obtain ⟨⟨v, u⟩, hv⟩ := Option.ne_none_iff_exists'.mp hbehind
      have hpair := Scan.pair_eq_some_iff.mpr ⟨r, hnot, Scan.pair_eq_some_iff.mpr ⟨y, hcolumn, hv⟩⟩
      exact ⟨by simp, Option.ne_none_iff_exists'.mpr ⟨_, hpair⟩⟩

/-- A word that begins with `NOT` and is not negated is that word alone. Without a column it ends the query,
as another column behind it would be negated. With a column it ends the query or another column follows. -/
theorem word_not_ends_or_precedes_column {diagnostics : Diagnostics} {directory : Directory}
    {query : List Char} (h : parse? diagnostics directory query = some terms) {i : Nat}
    (hi : terms[i]? = some term) (hkind : term.kind = .word) (hnegate : term.negate = false)
    (hnot : Token.not.regex.isMatch term.text.toList = true) :
    term.text = "NOT" ∧ (term.column = none → i + 1 = terms.length) ∧
      (term.column ≠ none → ∀ next, terms[i + 1]? = some next → next.column ≠ none) := by
  obtain ⟨-, hchain⟩ := (parse?_iff diagnostics directory query terms).mp h
  obtain ⟨s, r, hterm, hrest⟩ := hchain.getElem? hi
  have hnext : ∀ {s'}, Unnegating s' r → ∀ next, terms[i + 1]? = some next → next.column ≠ none ∧
      scanNot.pair ((scanColumnWhere (isKnown directory)).pair scanPattern) s' ≠ none := by
    intro s' hun next hnext
    rw [← List.head?_drop] at hnext
    exact next_of_unnegating hun hrest next hnext
  rw [isMatch_not] at hnot
  cases scanTermWhere_eq_some_iff.mp hterm with
  | negated => cases hnegate
  | column _ hnegatable =>
    cases hnegate
    cases hkind
    obtain ⟨htext, hun⟩ := unnegating_of_word hnegatable hnot
    exact ⟨htext, by simp, fun _ next hget => (hnext hun next hget).1⟩
  | bare hnone hnegatable =>
    cases hnegate
    cases hkind
    obtain ⟨htext, hun⟩ := unnegating_of_word hnegatable hnot
    refine ⟨htext, fun _ => ?_, fun hno => absurd rfl hno⟩
    have hlast : terms[i + 1]? = none := by
      by_contra hsome
      obtain ⟨next, hget⟩ := Option.ne_none_iff_exists'.mp hsome
      exact (hnext hun next hget).2 hnone
    have hle : terms.length ≤ i + 1 := List.getElem?_eq_none_iff.mp hlast
    have hlt : i < terms.length := (List.getElem?_eq_some_iff.mp hi).1
    omega

/-- With a column, `NOT` is a word before another column. -/
theorem word_not_precedes_column :
    ∃ next, parse? .silent ⟨[⟨"name", none, some 1, 0, 1⟩]⟩ ":name NOT :name a".toList =
        some [⟨some "name", .word, "NOT", false⟩, next] ∧ next.column ≠ none := by
  have h : parse? .silent ⟨[⟨"name", none, some 1, 0, 1⟩]⟩ ":name NOT :name a".toList =
      some [⟨some "name", .word, "NOT", false⟩, ⟨some "name", .word, "a", false⟩] := by decide +kernel
  obtain ⟨-, -, hnext⟩ :=
    word_not_ends_or_precedes_column h (i := 0) rfl rfl rfl (by decide +kernel)
  exact ⟨_, h, hnext (by simp) _ rfl⟩

end Grammar
end RowQuery
