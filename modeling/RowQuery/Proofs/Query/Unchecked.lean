import RowQuery.Proofs.Query.Cutting

/-!
Queries in which every name counts as that of a column.

* `Grammar.parseUnchecked?`: the terms of such a query.
* `Grammar.ReadsTerm`: the ways in which a term is read.
* `Grammar.chain_of_known`: if all names turn out to be known, the terms are those of the query as it is.
* `Grammar.exists_unknown`: a query that is refused only for its names has a name that is not known.

That a name is refused can change how the text before it is read: a `NOT` that a column with an unknown
name follows is a word. But then the column stands at the start of the next term, and is refused there.
-/
namespace RowQuery

theorem Scan.trim_trimStart {α : Type} (p : Scan α) (s : List Char) :
    p.trim (Text.trimStart s) = p.trim s := by
  rw [trim, trim, Text.trimStart_trimStart]

namespace Grammar

open Token (name? quotedName? word?)

variable {known : String → Bool} {s x y r : List Char} {key : String} {term : Term} {terms : List Term}

/-- Every name counts as that of a column. -/
def anyName : String → Bool := fun _ => true

/-- The terms of a query if names are not checked. -/
def parseUnchecked? (diagnostics : Diagnostics) (text : List Char) : Option (List Term) :=
  (queryWhere anyName).parse? diagnostics text

/-! ## Columns -/

theorem head?_of_scanColumnWhere (h : scanColumnWhere known s = some (key, r)) :
    (Text.trimStart s).head? = some ':' := by
  by_contra hne
  rw [scanColumnWhere_eq_none hne] at h
  cases h

/-- No pattern stands where a column does. -/
theorem scanPattern_eq_none (h : (Text.trimStart s).head? = some ':') : scanPattern s = none := by
  obtain ⟨t, ht⟩ := List.head?_eq_some_iff.mp h
  rw [scanPattern_eq, Scan.trim, ht, pattern?, if_neg (by decide), if_neg (by decide),
    word?_cons_of_not (by decide)]
  rfl

theorem scanNegatable_eq_none (h : (Text.trimStart s).head? = some ':') : scanNegatable s = none := by
  have hnot : scanNot s = none := scanNot_eq_none (by rw [h]; decide)
  have hpattern : scanPattern s = none := scanPattern_eq_none h
  rw [scanNegatable, Scan.orElse, Scan.map, Scan.map, Scan.pair_eq_none_left hnot, hpattern]
  rfl

/-- What `NOT` takes of a text. -/
theorem exists_of_scanNot {w : String} (h : scanNot s = some (w, x)) :
    ∃ t, Text.trimStart s = 'N' :: 'O' :: 'T' :: t ∧ x = Text.trimStart t := by
  rw [scanNot, ← Scan.trim_trimStart] at h
  obtain ⟨t, hs, -, hx⟩ := scanNot_eq_some (Text.trimStart_trimStart s) h
  exact ⟨t, hs, hx⟩

theorem keep_anyName (p : Scan String) : p.keep anyName = p := by
  funext s
  rw [Scan.keep]
  cases p s <;> rfl

/-- If names are not checked, a name in quotes is preferred, and else there may be one without. -/
theorem scanColumnWhere_anyName : scanColumnWhere anyName =
    ((quotedName?.map String.ofList).trim).orElse ((name?.map String.ofList).trim) := by
  rw [scanColumnWhere, keep_anyName, keep_anyName]

/-- A name that passes a test is read under the test too. -/
theorem scanColumnWhere_of_known (h : scanColumnWhere anyName s = some (key, r))
    (hk : known key = true) : scanColumnWhere known s = some (key, r) := by
  rw [scanColumnWhere_anyName] at h
  rcases Option.or_eq_some_iff.mp h with h | ⟨hnone, h⟩
  · exact Option.or_eq_some_iff.mpr (.inl (Option.filter_eq_some_iff.mpr ⟨h, hk⟩))
  · refine Option.or_eq_some_iff.mpr (.inr ⟨?_, Option.filter_eq_some_iff.mpr ⟨h, hk⟩⟩)
    rw [Scan.keep, hnone]
    rfl

/-- Where there is no name, there is none that passes a test. -/
theorem scanColumnWhere_of_none (h : scanColumnWhere anyName s = none) :
    scanColumnWhere known s = none := by
  rw [scanColumnWhere_anyName] at h
  obtain ⟨hquoted, hname⟩ := Option.or_eq_none_iff.mp h
  rw [scanColumnWhere, Scan.orElse, Scan.keep, Scan.keep, hquoted, hname]
  rfl

/-! ## Terms -/

/-- The ways in which a term is read. -/
inductive ReadsTerm (known : String → Bool) (s r : List Char) : Term → Prop
  | negated {w key text : String} {kind : PatternKind} {x y : List Char}
      (hnot : scanNot s = some (w, x)) (hcolumn : scanColumnWhere known x = some (key, y))
      (hpattern : scanPattern y = some ((kind, text), r)) :
      ReadsTerm known s r ⟨some key, kind, text, true⟩
  | column {key text : String} {kind : PatternKind} {negate : Bool} {y : List Char}
      (hcolumn : scanColumnWhere known s = some (key, y))
      (hnegatable : scanNegatable y = some ((negate, kind, text), r)) :
      ReadsTerm known s r ⟨some key, kind, text, negate⟩
  | bare {text : String} {kind : PatternKind} {negate : Bool}
      (hnone : scanNot.pair ((scanColumnWhere known).pair scanPattern) s = none)
      (hnegatable : scanNegatable s = some ((negate, kind, text), r)) :
      ReadsTerm known s r ⟨none, kind, text, negate⟩

/-- A term is read in one of these ways. -/
theorem scanTermWhere_eq_some_iff : scanTermWhere known s = some (term, r) ↔ ReadsTerm known s r term := by
  constructor
  · intro h
    rcases Option.or_eq_some_iff.mp h with h | ⟨hnone, h⟩
    · obtain ⟨⟨w, key, kind, text⟩, hpair, rfl⟩ := Scan.map_eq_some_iff.mp h
      obtain ⟨x, hnot, hpair⟩ := Scan.pair_eq_some_iff.mp hpair
      obtain ⟨y, hcolumn, hpattern⟩ := Scan.pair_eq_some_iff.mp hpair
      exact .negated hnot hcolumn hpattern
    rcases Option.or_eq_some_iff.mp h with h | ⟨-, h⟩
    · obtain ⟨⟨key, negate, kind, text⟩, hpair, rfl⟩ := Scan.map_eq_some_iff.mp h
      obtain ⟨y, hcolumn, hnegatable⟩ := Scan.pair_eq_some_iff.mp hpair
      exact .column hcolumn hnegatable
    · obtain ⟨⟨negate, kind, text⟩, hnegatable, rfl⟩ := Scan.map_eq_some_iff.mp h
      exact .bare (Scan.map_eq_none_iff.mp hnone) hnegatable
  · intro h
    cases h with
    | negated hnot hcolumn hpattern =>
      have hpair := Scan.pair_eq_some_iff.mpr ⟨_, hcolumn, hpattern⟩
      exact Option.or_eq_some_iff.mpr (.inl (Scan.map_eq_some_iff.mpr
        ⟨_, Scan.pair_eq_some_iff.mpr ⟨_, hnot, hpair⟩, rfl⟩))
    | column hcolumn hnegatable =>
      have hnot : scanNot s = none := scanNot_eq_none (by rw [head?_of_scanColumnWhere hcolumn]; decide)
      refine Option.or_eq_some_iff.mpr (.inr ⟨?_, Option.or_eq_some_iff.mpr (.inl ?_)⟩)
      · exact Scan.map_eq_none_iff.mpr (Scan.pair_eq_none_left hnot)
      · exact Scan.map_eq_some_iff.mpr ⟨_, Scan.pair_eq_some_iff.mpr ⟨_, hcolumn, hnegatable⟩, rfl⟩
    | bare hnone hnegatable =>
      have hcolumn : scanColumnWhere known s = none := by
        refine scanColumnWhere_eq_none fun hhead => ?_
        rw [scanNegatable_eq_none hhead] at hnegatable
        cases hnegatable
      refine Option.or_eq_some_iff.mpr (.inr ⟨?_, Option.or_eq_some_iff.mpr (.inr ⟨?_, ?_⟩)⟩)
      · exact Scan.map_eq_none_iff.mpr hnone
      · exact Scan.map_eq_none_iff.mpr (Scan.pair_eq_none_left hcolumn)
      · exact Scan.map_eq_some_iff.mpr ⟨_, hnegatable, rfl⟩

/-- Where no pattern stands there is no `NOT`, as that is a word itself. -/
theorem scanNot_eq_none_of_scanPattern (h : scanPattern s = none) : scanNot s = none := by
  refine scanNot_eq_none fun hhead => ?_
  obtain ⟨t, ht⟩ := List.head?_eq_some_iff.mp hhead
  refine scanPattern_ne_none (c := 'N') (by decide) t ?_
  rwa [← ht, scanPattern_eq, Scan.trim_trimStart, ← scanPattern_eq]

/-- Where a pattern can be read with `NOT`, one can be read without. -/
theorem scanNegatable_eq_none_of_scanPattern (h : scanPattern s = none) : scanNegatable s = none := by
  have hnot : scanNot s = none := scanNot_eq_none_of_scanPattern h
  rw [scanNegatable, Scan.orElse, Scan.map, Scan.map, Scan.pair_eq_none_left hnot, h]
  rfl

/-- A `NOT` before a colon is a word, if no column is read behind it. -/
theorem rest_of_not {w : String} {v : Bool × PatternKind × String} (hnot : scanNot s = some (w, x))
    (hx : x.head? = some ':') (h : scanNegatable s = some (v, r)) : r = x := by
  obtain ⟨t, hs, rfl⟩ := exists_of_scanNot hnot
  have hafter : scanPattern (Text.trimStart t) = none :=
    scanPattern_eq_none (by rw [Text.trimStart_trimStart, hx])
  -- What follows `NOT` is white space or the colon, so the word ends there.
  have hend : ∀ c ∈ t.head?, Token.isWordChar c = false := by
    intro c hc
    obtain ⟨t', rfl⟩ := List.head?_eq_some_iff.mp hc
    cases hblank : Text.isBlank c with
    | true => simp [Token.isWordChar, hblank]
    | false =>
      rw [Text.trimStart_cons_ink hblank] at hx
      cases hx
      decide
  have hletters : ['N', 'O', 'T'].all Token.isWordChar = true := by decide +kernel
  have hword : word? ('N' :: 'O' :: 'T' :: t) = some (['N', 'O', 'T'], t) :=
    Token.run?_eq_some_iff.mpr ⟨rfl, by simp, List.all_eq_true.mp hletters, hend⟩
  rcases Option.or_eq_some_iff.mp h with h | ⟨-, h⟩
  · obtain ⟨⟨w', p⟩, hpair, -⟩ := Scan.map_eq_some_iff.mp h
    rw [Scan.pair_eq_none_right hnot hafter] at hpair
    cases hpair
  · obtain ⟨p, hp, -⟩ := Scan.map_eq_some_iff.mp h
    rw [scanPattern_eq, Scan.trim, hs, pattern?, if_neg (by decide), if_neg (by decide), hword] at hp
    cases hp
    rfl

/-! ## Names that turn out to be known -/

/-- Where `NOT` is read as a word and then another term, there is no column behind it: the column would begin
that term, but has no pattern behind it. -/
theorem scanColumnWhere_behind_not {w : String} {v : Bool × PatternKind × String}
    (hnot : scanNot s = some (w, x))
    (hnone : scanNot.pair ((scanColumnWhere anyName).pair scanPattern) s = none)
    (h : scanNegatable s = some (v, r)) (hr : (scanTermWhere anyName).Chain r terms) :
    scanColumnWhere anyName x = none := by
  cases hcolumn : scanColumnWhere anyName x with
  | none => rfl
  | some b =>
    obtain ⟨key, y⟩ := b
    have hpattern : scanPattern y = none := by
      rw [Scan.pair, hnot] at hnone
      have hpair : (scanColumnWhere anyName).pair scanPattern x = none := Option.map_eq_none_iff.mp hnone
      rw [Scan.pair, hcolumn] at hpair
      exact Option.map_eq_none_iff.mp hpair
    have hcolon := head?_of_scanColumnWhere hcolumn
    obtain ⟨t, -, hx⟩ := exists_of_scanNot hnot
    have htrim : Text.trimStart x = x := by rw [hx, Text.trimStart_trimStart]
    obtain rfl : r = x := rest_of_not hnot (by rwa [htrim] at hcolon) h
    cases hr with
    | nil => cases hcolon
    | cons hterm _ =>
      cases scanTermWhere_eq_some_iff.mp hterm with
      | negated hnot' =>
        rw [scanNot_eq_none (by rw [hcolon]; decide)] at hnot'
        cases hnot'
      | column hcolumn' hnegatable =>
        cases hcolumn.symm.trans hcolumn'
        rw [scanNegatable_eq_none_of_scanPattern hpattern] at hnegatable
        cases hnegatable
      | bare _ hnegatable =>
        rw [scanNegatable_eq_none hcolon] at hnegatable
        cases hnegatable

/-- A term with a known name is read if names are checked too, as there is a term behind it. -/
theorem readsTerm_of_known (h : ReadsTerm anyName s r term) (hr : (scanTermWhere anyName).Chain r terms)
    (hk : ∀ key, term.column = some key → known key = true) : ReadsTerm known s r term := by
  cases h with
  | negated hnot hcolumn hpattern =>
    exact .negated hnot (scanColumnWhere_of_known hcolumn (hk _ rfl)) hpattern
  | column hcolumn hnegatable =>
    exact .column (scanColumnWhere_of_known hcolumn (hk _ rfl)) hnegatable
  | bare hnone hnegatable =>
    refine .bare ?_ hnegatable
    cases hnot : scanNot s with
    | none => exact Scan.pair_eq_none_left hnot
    | some b =>
      have hcolumn := scanColumnWhere_behind_not hnot hnone hnegatable hr
      exact Scan.pair_eq_none_right hnot (Scan.pair_eq_none_left (scanColumnWhere_of_none hcolumn))

/-- A text whose names are known has the same terms if names are checked. -/
theorem chain_of_known (h : (scanTermWhere anyName).Chain s terms)
    (hk : ∀ key, some key ∈ terms.map Term.column → known key = true) :
    (scanTermWhere known).Chain s terms := by
  induction h with
  | nil => exact .nil
  | @cons s r term terms hterm hr ih =>
    have hreads : ReadsTerm known s r term :=
      readsTerm_of_known (scanTermWhere_eq_some_iff.mp hterm) hr fun key hkey => hk key (by simp [hkey])
    exact .cons (scanTermWhere_eq_some_iff.mpr hreads) (ih fun key hkey => hk key (by simp [hkey]))

/-- A query that is refused only for its names has a name that stands for no column. -/
theorem exists_unknown {diagnostics : Diagnostics} {directory : Directory} {text : List Char}
    (hno : parse? diagnostics directory text = none)
    (hyes : parseUnchecked? diagnostics text = some terms) :
    ∃ key, some key ∈ terms.map Term.column ∧ directory.resolve? key = none := by
  obtain ⟨hne, hchain⟩ := (parse?_queryWhere_iff anyName diagnostics text terms).mp hyes
  by_contra hknown
  push Not at hknown
  have hall : (scanTermWhere (isKnown directory)).Chain text terms :=
    chain_of_known hchain fun key hkey => Option.isSome_iff_ne_none.mpr (hknown key hkey)
  rw [(parse?_iff diagnostics directory text terms).mpr ⟨hne, hall⟩] at hno
  cases hno

end Grammar
end RowQuery
