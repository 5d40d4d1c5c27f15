import Mathlib.Data.List.Forall2
import RowQuery.Proofs.Query.Grammar
import RowQuery.Proofs.Text.Blank

/-!
Queries cut into their terms.

* `Scan.Settled`: what a token takes does not depend on how much of the text follows.
* `Scan.Begins`, `Scan.Ends`: rules that take a solid piece of a text, and take it again when they read
  the piece alone.
* `Grammar.cut_of_parse?`: each term of a query is the only term of a piece of the query, and there is
  nothing but white space between these pieces.
-/
namespace RowQuery

open Text (Blank Solid)

namespace Scan

variable {α β : Type}

/-- What is taken begins and ends with characters other than white space, and is taken whatever part
of the rest follows. -/
def Settled (p : Scan α) : Prop :=
  ∀ s a r, p s = some (a, r) →
    ∃ k, s = k ++ r ∧ Solid k ∧ ∀ q, q <+: r → p (k ++ q) = some (a, q)

/-- A solid piece of a text, between white space, with what follows it. -/
structure Cut (s k r : List Char) : Prop where
  solid : Solid k
  split : ∃ w, Blank w ∧ Text.trimStart s = k ++ (w ++ r)
  rest : Text.trimStart r = r

/-- A scan takes a piece of a text, whatever part of the rest follows. -/
structure Begins (p : Scan α) (s k : List Char) (a : α) (r : List Char) : Prop extends
    Cut s k r where
  part : ∀ q, k ++ q <+: Text.trimStart s → p (k ++ q) = some (a, Text.trimStart q)

/-- A scan takes a piece of a text, and takes it too if it stands alone. -/
structure Ends (p : Scan α) (s k : List Char) (a : α) (r : List Char) : Prop extends
    Cut s k r where
  alone : p k = some (a, [])

variable {p p' : Scan α} {q : Scan β} {s k h r r' : List Char} {a : α} {b : β}

theorem Begins.ends (hb : p.Begins s k a r) : p.Ends s k a r where
  toCut := hb.toCut
  alone := by
    obtain ⟨w, -, hs⟩ := hb.split
    simpa using hb.part [] (by rw [List.append_nil, hs]; exact List.prefix_append _ _)

theorem Settled.map (hp : p.Settled) (f : α → β) : (p.map f).Settled := by
  intro s b r hb
  obtain ⟨a, ha, rfl⟩ := map_eq_some_iff.mp hb
  obtain ⟨k, hs, hk, hpart⟩ := hp s a r ha
  exact ⟨k, hs, hk, fun q hq => map_eq_some_iff.mpr ⟨a, hpart q hq, rfl⟩⟩

/-- It is enough that a scan does as a settled one does where a text begins with the same character:
what is taken is not empty. -/
theorem Settled.of_cons {c : Char} (hp : p.Settled) (heq : ∀ t, p' (c :: t) = p (c :: t))
    (h : p' (c :: s) = some (a, r)) :
    ∃ k, c :: s = k ++ r ∧ Solid k ∧ ∀ q, q <+: r → p' (k ++ q) = some (a, q) := by
  rw [heq] at h
  obtain ⟨k, hs, hk, hpart⟩ := hp _ a r h
  refine ⟨k, hs, hk, fun q hq => ?_⟩
  cases k with
  | nil => exact absurd rfl hk.ne_nil
  | cons d k =>
    obtain rfl : c = d := (List.cons.inj hs).1
    exact (heq (k ++ q)).trans (hpart q hq)

theorem Settled.trim (hp : p.Settled) (ha : p.trim s = some (a, r)) :
    ∃ k, p.trim.Begins s k a r ∧ p k = some (a, []) := by
  obtain ⟨t, ht, rfl⟩ := trim_eq_some_iff.mp ha
  obtain ⟨k, hs, hk, hpart⟩ := hp _ a t ht
  obtain ⟨w, hw, hr⟩ := Text.exists_eq_append_trimStart t
  refine ⟨k, ⟨⟨hk, ⟨w, hw, by rw [hs, ← hr]⟩, Text.trimStart_trimStart t⟩, fun q hq => ?_⟩,
    by simpa using hpart [] List.nil_prefix⟩
  rw [hs, List.prefix_append_right_inj] at hq
  exact trim_eq_some_iff.mpr ⟨q, by rw [hk.trimStart_append, hpart q hq], rfl⟩

theorem Ends.map (he : p.Ends s k a r) (f : α → β) : (p.map f).Ends s k (f a) r where
  toCut := he.toCut
  alone := map_eq_some_iff.mpr ⟨a, he.alone, rfl⟩

theorem Begins.keep {test : α → Bool} (hb : p.Begins s k a r) (ht : test a = true) :
    (p.keep test).Begins s k a r where
  toCut := hb.toCut
  part := fun q hq => by rw [Scan.keep, hb.part q hq, Option.filter_some, if_pos ht]

theorem Begins.orElse_left (hb : p.Begins s k a r) : (p.orElse p').Begins s k a r where
  toCut := hb.toCut
  part := fun q hq => by rw [Scan.orElse, hb.part q hq]; rfl

theorem Begins.orElse_right (hb : p'.Begins s k a r)
    (hp : ∀ q, k ++ q <+: Text.trimStart s → p (k ++ q) = none) :
    (p.orElse p').Begins s k a r where
  toCut := hb.toCut
  part := fun q hq => by rw [Scan.orElse, hp q hq, hb.part q hq]; rfl

theorem Ends.orElse_left (he : p.Ends s k a r) : (p.orElse p').Ends s k a r where
  toCut := he.toCut
  alone := by rw [Scan.orElse, he.alone]; rfl

theorem Ends.orElse_right (he : p'.Ends s k a r) (hp : p k = none) :
    (p.orElse p').Ends s k a r where
  toCut := he.toCut
  alone := by rw [Scan.orElse, hp, he.alone]; rfl

/-- A piece followed by another makes one, with the white space between them. -/
theorem Cut.append (hc : Cut s k r) (hc' : Cut r h r') :
    ∃ w, Blank w ∧ Cut s (k ++ (w ++ h)) r' ∧ k ++ (w ++ h) <+: Text.trimStart s := by
  obtain ⟨w, hw, hs⟩ := hc.split
  obtain ⟨w', hw', hr⟩ := hc'.split
  rw [hc.rest] at hr
  have hs' : Text.trimStart s = k ++ (w ++ h) ++ (w' ++ r') := by
    rw [hs, hr]
    simp
  refine ⟨w, hw, ⟨hc.solid.append hc'.solid w, ⟨w', hw', hs'⟩, hc'.rest⟩, ?_⟩
  rw [hs']
  exact List.prefix_append _ _

theorem Begins.pair (hb : p.Begins s k a r) (he : q.Ends r h b r') :
    ∃ w, Blank w ∧ (p.pair q).Ends s (k ++ (w ++ h)) (a, b) r' ∧
      p (k ++ (w ++ h)) = some (a, h) := by
  obtain ⟨w, hw, hc, hprefix⟩ := hb.toCut.append he.toCut
  have hp : p (k ++ (w ++ h)) = some (a, h) := by
    rw [hb.part _ hprefix, Text.trimStart_append hw, he.solid.trimStart_eq]
  exact ⟨w, hw, ⟨hc, pair_eq_some_iff.mpr ⟨h, hp, he.alone⟩⟩, hp⟩

end Scan

/-! ## Tokens -/

namespace Token

variable {d : Char} {s body p q r : List Char}

/-- Where there is an end in a part of a text, there is one in the text. -/
theorem isSome_inner_append (h : (inner d p).isSome = true) (q : List Char) :
    (inner d (p ++ q)).isSome = true := by
  fun_induction inner d p with
  | case1 => cases h
  | case2 =>
    rw [List.singleton_append, inner_cons_self]
    rfl
  | case3 => cases h
  | case4 x r =>
    rw [List.cons_append, inner_cons_self]
    rfl
  | case5 c x r hc hp ihpair ih =>
    simp only [Option.isSome_or, Option.isSome_map, Bool.or_eq_true] at h
    rw [List.cons_append, List.cons_append, inner, if_neg hc, if_pos hp]
    simp only [Option.isSome_or, Option.isSome_map, Bool.or_eq_true]
    rcases h with h | h
    · exact .inl (ihpair h)
    · exact .inr (ih h)
  | case6 c x r hc hp ih =>
    rw [Option.isSome_map] at h
    rw [List.cons_append, List.cons_append, inner, if_neg hc, if_neg hp, Option.isSome_map]
    exact ih h

theorem inner_eq_none_of_prefix (h : inner d s = none) (hp : p <+: s) : inner d p = none := by
  obtain ⟨q, rfl⟩ := hp
  by_contra hne
  have := isSome_inner_append (Option.isSome_iff_ne_none.mpr hne) q
  simp [h] at this

/-- The inner text is the same whatever part of the rest follows its delimiter. -/
theorem inner_of_prefix (h : inner d s = some body) (hs : s = body ++ d :: r) (hq : q <+: r) :
    inner d (body ++ d :: q) = some body := by
  -- A character that is read before the delimiter is read in the part of the text as well.
  have hprefix : ∀ {b : List Char} {x : Char} {t : List Char}, x :: t = b ++ d :: r →
      ∃ t', b ++ d :: q = x :: t' ∧ t' <+: t := by
    intro b x t ht
    have : b ++ d :: q <+: x :: t := by
      rw [ht, List.prefix_append_right_inj, List.cons_prefix_cons]
      exact ⟨rfl, hq⟩
    rcases List.prefix_cons_iff.mp this with he | he
    · simp at he
    · exact he
  fun_induction inner d s generalizing body with
  | case1 => cases h
  | case2 =>
    cases h
    exact inner_cons_self d q
  | case3 => cases h
  | case4 x t =>
    cases h
    exact inner_cons_self d q
  | case5 c x t hc hp ihpair ih =>
    rcases Option.or_eq_some_iff.mp h with h | ⟨hnone, h⟩
    · obtain ⟨body, hbody, rfl⟩ := Option.map_eq_some_iff.mp h
      have := ihpair hbody (by simpa using hs)
      rw [List.cons_append, List.cons_append, inner, if_neg hc, if_pos hp, this]
      rfl
    · -- No end lies behind the pair, so none lies behind it in a part of the text.
      obtain ⟨body, hbody, rfl⟩ := Option.map_eq_some_iff.mp h
      have hs : x :: t = body ++ d :: r := by simpa using hs
      obtain ⟨t', ht', hpart⟩ := hprefix hs
      have hrest := ih hbody hs
      rw [ht'] at hrest
      have hpair := inner_eq_none_of_prefix (Option.map_eq_none_iff.mp hnone) hpart
      rw [List.cons_append, ht', inner, if_neg hc, if_pos hp, hpair, hrest]
      rfl
  | case6 c x t hc hp ih =>
    obtain ⟨body, hbody, rfl⟩ := Option.map_eq_some_iff.mp h
    have hs : x :: t = body ++ d :: r := by simpa using hs
    obtain ⟨t', ht', -⟩ := hprefix hs
    have hrest := ih hbody hs
    rw [ht'] at hrest
    rw [List.cons_append, ht', inner, if_neg hc, if_neg hp, hrest]
    rfl

theorem head?_of_prefix {P : Char → Prop} (h : ∀ c ∈ r.head?, P c) (hq : q <+: r) :
    ∀ c ∈ q.head?, P c := by
  obtain ⟨t, rfl⟩ := hq
  cases q with
  | nil => simp
  | cons c q => exact h

theorem settled_run? {f : Char → Bool} (hf : ∀ c, f c = true → Text.isBlank c = false) :
    (run? f).Settled := by
  intro s w r h
  obtain ⟨rfl, hne, hw, hr⟩ := run?_eq_some_iff.mp h
  refine ⟨w, rfl, .of_forall hne fun c hc => hf c (hw c hc), fun q hq => ?_⟩
  exact run?_eq_some_iff.mpr ⟨rfl, hne, hw, head?_of_prefix hr hq⟩

theorem isBlank_of_isWordChar {c : Char} (h : isWordChar c = true) : Text.isBlank c = false := by
  simp only [isWordChar, Bool.and_eq_true, Bool.not_eq_true'] at h
  exact h.2

theorem isBlank_of_isNameChar {c : Char} (h : isNameChar c = true) : Text.isBlank c = false := by
  simp only [isNameChar, Bool.and_eq_true, Bool.not_eq_true'] at h
  exact h.2

theorem settled_word? : word?.Settled := settled_run? fun _ => isBlank_of_isWordChar

theorem settled_not? : not?.Settled := by
  intro s a r h
  unfold not? at h
  split at h
  · next t =>
    split at h
    · cases h
    · next hword =>
      cases h
      refine ⟨['N', 'O', 'T'], rfl, .of_forall (by simp) (by simp [Text.isBlank]), fun q hq => ?_⟩
      have hhead : Regex.inWord false q.head? = false := by
        obtain ⟨t, rfl⟩ := hq
        cases q with
        | nil => rfl
        | cons c q => simpa using hword
      simp [not?, hhead]
  · cases h

theorem settled_name? : name?.Settled := by
  intro s w r h
  unfold name? at h
  split at h
  · cases h
  · split at h
    · next hc =>
      obtain ⟨rfl, hne, hw, hr⟩ := run?_eq_some_iff.mp h
      subst hc
      refine ⟨':' :: w, rfl, .of_forall (by simp) fun c hc => ?_, fun q hq => ?_⟩
      · rcases List.mem_cons.mp hc with rfl | hc
        · decide
        · exact isBlank_of_isNameChar (hw c hc)
      · rw [List.cons_append, name?, if_pos rfl]
        exact run?_eq_some_iff.mpr ⟨rfl, hne, hw, head?_of_prefix hr hq⟩
    · cases h

/-- A name in quotes with its colon is read whatever follows. -/
theorem quotedName?_eq_some_iff :
    quotedName? s = some (body, r) ↔
      s = ':' :: '"' :: (body ++ '"' :: r) ∧ body ≠ [] ∧ '"' ∉ body := by
  constructor
  · intro h
    unfold quotedName? at h
    split at h
    · split at h
      · next hcd =>
        split at h
        · next key c r' hrun =>
          cases h
          obtain ⟨rfl, hne, hkey, hr⟩ := run?_eq_some_iff.mp hrun
          obtain ⟨rfl, rfl⟩ := hcd
          obtain rfl : c = '"' := by simpa using hr c rfl
          exact ⟨rfl, hne, fun hq => by simpa using hkey _ hq⟩
        · cases h
      · cases h
    · cases h
  · rintro ⟨rfl, hne, hbody⟩
    have hrun : run? (· != '"') (body ++ '"' :: r) = some (body, '"' :: r) := by
      refine run?_eq_some_iff.mpr ⟨rfl, hne, fun c hc => ?_, by simp⟩
      simpa using fun he : c = '"' => hbody (he ▸ hc)
    rw [quotedName?, if_pos ⟨rfl, rfl⟩, hrun]

/-- A text that begins and ends with a quote or the like has no white space at its ends. -/
theorem solid_of_ends {c d : Char} (hc : Text.isBlank c = false) (hd : Text.isBlank d = false)
    (t : List Char) : Solid (c :: (t ++ [d])) where
  ne_nil := by simp
  head := by
    intro x hx
    cases hx
    exact hc
  last := by
    intro x hx
    rw [← List.cons_append, List.getLast?_concat] at hx
    cases hx
    exact hd

theorem settled_quotedName? : quotedName?.Settled := by
  intro s body r h
  obtain ⟨rfl, hne, hbody⟩ := quotedName?_eq_some_iff.mp h
  refine ⟨':' :: ('"' :: body ++ ['"']), by simp, solid_of_ends (by decide) (by decide) _,
    fun q _ => quotedName?_eq_some_iff.mpr ⟨by simp, hne, hbody⟩⟩

theorem settled_delimited? (hd : Text.isBlank d = false) : (delimited? d).Settled := by
  intro s body r h
  unfold delimited? at h
  split at h
  · cases h
  · next c t =>
    split at h
    · next hc =>
      subst hc
      obtain ⟨body', hin, he⟩ := Option.map_eq_some_iff.mp h
      obtain ⟨r', rfl⟩ := eq_of_inner hin
      cases he
      have hdrop : (body ++ c :: r').drop (body.length + 1) = r' := by simp
      rw [hdrop]
      refine ⟨c :: (body ++ [c]), by simp, solid_of_ends hd hd _, fun q hq => ?_⟩
      have := inner_of_prefix hin rfl hq
      simp [delimited?, this]
    · cases h

end Token

/-! ## Rules -/

namespace Grammar

open Token (delimited? word? name? quotedName? not?)

variable {directory : Directory} {s k r t : List Char}

/-- The characters of a word: one at least, none of them white space, a colon, a quote or a slash. -/
structure IsWord (k : List Char) : Prop where
  ne_nil : k ≠ []
  all : ∀ c ∈ k, c ≠ ':' ∧ c ≠ '"' ∧ c ≠ '/' ∧ Text.isBlank c = false

theorem isWordChar_iff {c : Char} :
    Token.isWordChar c = true ↔ c ≠ ':' ∧ c ≠ '"' ∧ c ≠ '/' ∧ Text.isBlank c = false := by
  simp [Token.isWordChar, and_assoc]

/-- How a pattern stands in a query: as a word, or between delimiters. -/
inductive PatternAt : List Char → PatternKind × String → Prop
  | word {k : List Char} (hk : IsWord k) : PatternAt k (.word, String.ofList k)
  | delimited {c : Char} {r : List Char} {kind : PatternKind} {text : String}
      (hc : c = '"' ∨ c = '/') (hkind : kind ≠ .word) : PatternAt (c :: r) (kind, text)

theorem patternAt_of_pattern? {v : PatternKind × String} (h : pattern? k = some (v, [])) :
    PatternAt k v := by
  unfold pattern? at h
  split at h
  · cases h
  · split at h
    · next hc =>
      obtain ⟨⟨body, r⟩, -, he⟩ := Option.map_eq_some_iff.mp h
      cases he
      exact .delimited (.inl hc) (by simp)
    · split at h
      · next hc =>
        obtain ⟨⟨body, r⟩, -, he⟩ := Option.map_eq_some_iff.mp h
        cases he
        exact .delimited (.inr hc) (by simp)
      · obtain ⟨⟨w, r⟩, hw, he⟩ := Option.map_eq_some_iff.mp h
        cases he
        obtain ⟨hk, hne, hall, -⟩ := Token.run?_eq_some_iff.mp hw
        rw [hk, List.append_nil]
        exact .word ⟨hne, fun c hc => isWordChar_iff.mp (hall c hc)⟩

theorem settled_pattern? : pattern?.Settled := by
  intro s v r h
  cases s with
  | nil => cases h
  | cons c t =>
    by_cases hq : c = '"'
    · refine ((Token.settled_delimited? (d := '"') (by decide)).map fun body =>
        (.quote, Token.unescapeQuote (String.ofList body))).of_cons (fun t => ?_) h
      rw [pattern?, if_pos hq]
      rfl
    by_cases hs : c = '/'
    · refine ((Token.settled_delimited? (d := '/') (by decide)).map fun body =>
        (.regex, Token.unescapeRegex (String.ofList body))).of_cons (fun t => ?_) h
      rw [pattern?, if_neg hq, if_pos hs]
      rfl
    · refine (Token.settled_word?.map fun w => (.word, String.ofList w)).of_cons (fun t => ?_) h
      rw [pattern?, if_neg hq, if_neg hs]
      rfl

theorem begins_scanPattern {v : PatternKind × String} (h : scanPattern s = some (v, r)) :
    ∃ k, scanPattern.Begins s k v r ∧ PatternAt k v := by
  rw [scanPattern_eq] at h ⊢
  obtain ⟨k, hk, halone⟩ := settled_pattern?.trim h
  exact ⟨k, hk, patternAt_of_pattern? halone⟩

theorem begins_scanNot {v : String} (h : scanNot s = some (v, r)) :
    ∃ k, scanNot.Begins s k v r := by
  obtain ⟨k, hk, -⟩ := (Token.settled_not?.map String.ofList).trim h
  exact ⟨k, hk⟩

/-- A column is read whatever follows it. A name in quotes that is not known, or that has no end, does
not become one that is known in a part of the text. -/
theorem begins_scanColumn {key : String} (h : scanColumn directory s = some (key, r)) :
    (∃ k, (scanColumn directory).Begins s k key r) ∧ isKnown directory key = true := by
  rcases Option.or_eq_some_iff.mp h with h | ⟨hnone, h⟩
  · obtain ⟨h, hknown⟩ := Option.filter_eq_some_iff.mp h
    obtain ⟨k, hk, -⟩ := (Token.settled_quotedName?.map String.ofList).trim h
    exact ⟨⟨k, (hk.keep hknown).orElse_left⟩, hknown⟩
  · obtain ⟨h, hknown⟩ := Option.filter_eq_some_iff.mp h
    obtain ⟨k, hk, -⟩ := (Token.settled_name?.map String.ofList).trim h
    refine ⟨⟨k, (hk.keep hknown).orElse_right fun q hq => ?_⟩, hknown⟩
    rw [Scan.keep, Option.filter_eq_none_iff] at hnone ⊢
    rintro ⟨key', r'⟩ hkey' hknown'
    obtain ⟨t, ht, rfl⟩ := Scan.trim_eq_some_iff.mp hkey'
    rw [hk.solid.trimStart_append] at ht
    obtain ⟨body, hbody, rfl⟩ := Scan.map_eq_some_iff.mp ht
    obtain ⟨more, hmore⟩ := hq
    obtain ⟨hkq, hne, hin⟩ := Token.quotedName?_eq_some_iff.mp hbody
    have hwhole : quotedName? (Text.trimStart s) = some (body, t ++ more) :=
      Token.quotedName?_eq_some_iff.mpr ⟨by rw [← hmore, hkq]; simp, hne, hin⟩
    refine hnone (String.ofList body, Text.trimStart (t ++ more)) ?_ hknown'
    exact Scan.trim_eq_some_iff.mpr ⟨_, Scan.map_eq_some_iff.mpr ⟨body, hwhole, rfl⟩, rfl⟩

/-- A pattern begins with a quote, a slash or a character of a word. -/
theorem PatternAt.exists_cons {v : PatternKind × String} (h : PatternAt k v) :
    ∃ c k', k = c :: k' ∧ c ≠ ':' ∧ Text.isBlank c = false := by
  cases h with
  | @word _ hk =>
    cases k with
    | nil => exact absurd rfl hk.ne_nil
    | cons c k =>
      obtain ⟨hcolon, -, -, hblank⟩ := hk.all c (by simp)
      exact ⟨c, k, rfl, hcolon, hblank⟩
  | @delimited c r _ _ hc hkind =>
    refine ⟨c, r, rfl, ?_⟩
    rcases hc with rfl | rfl
    · decide
    · decide

/-- No column stands where a pattern does. -/
theorem PatternAt.scanColumn_eq_none {v : PatternKind × String} (h : PatternAt k v) :
    scanColumn directory k = none := by
  obtain ⟨c, k', rfl, hcolon, hblank⟩ := h.exists_cons
  refine Grammar.scanColumn_eq_none ?_
  rw [Text.trimStart_cons_ink hblank]
  simpa using hcolon

/-- A word can be read at each of its characters. -/
theorem scanPattern_ne_none {c : Char} (hc : Token.isWordChar c = true) (r : List Char) :
    scanPattern (c :: r) ≠ none := by
  obtain ⟨-, hquote, hslash, hblank⟩ := isWordChar_iff.mp hc
  have hword : word? (c :: r) ≠ none := by
    simp [word?, Token.run?, hc]
  rw [scanPattern_eq, Scan.trim, Text.trimStart_cons_ink hblank, pattern?, if_neg hquote,
    if_neg hslash]
  simpa using hword

/-- What `NOT` takes of a text without white space at its start. -/
theorem scanNot_eq_some {u v : List Char} {w : String} (hu : Text.trimStart u = u)
    (h : scanNot u = some (w, v)) :
    ∃ t, u = 'N' :: 'O' :: 'T' :: t ∧ Regex.inWord false t.head? = false ∧
      v = Text.trimStart t := by
  obtain ⟨t, ht, rfl⟩ := Scan.trim_eq_some_iff.mp h
  obtain ⟨_, hnot, -⟩ := Scan.map_eq_some_iff.mp ht
  rw [hu] at hnot
  unfold not? at hnot
  split at hnot
  · split at hnot
    · cases hnot
    · next hword =>
      cases hnot
      exact ⟨_, rfl, by simpa using hword, rfl⟩
  · cases hnot

/-- `NOT` negates what goes on after it in a word. -/
theorem pair_scanNot_ne_none {d : Char} (hs : Text.trimStart s = 'N' :: 'O' :: 'T' :: d :: t)
    (hword : Regex.inWord false (some d) = false) (hd : Token.isWordChar d = true) :
    scanNot.pair scanPattern s ≠ none := by
  obtain ⟨-, -, -, hink⟩ := isWordChar_iff.mp hd
  have hnot : scanNot s = some (String.ofList ['N', 'O', 'T'], d :: t) := by
    rw [scanNot, Scan.trim, hs]
    simp [Scan.map, not?, hword, Text.trimStart_cons_ink hink]
  rw [Scan.pair, hnot]
  exact fun h => scanPattern_ne_none hd t (Option.map_eq_none_iff.mp h)

/-- Where a pattern is not negated, the part of the text that is the pattern is not either: what
follows `NOT` in a word goes on as a word. -/
theorem pair_scanNot_eq_none {v : PatternKind × String} (hk : PatternAt k v)
    (hs : Text.trimStart s = k ++ t) (h : scanNot.pair scanPattern s = none) :
    scanNot.pair scanPattern k = none := by
  obtain ⟨c, k', rfl, -, hblank⟩ := hk.exists_cons
  have htrim : Text.trimStart (c :: k') = c :: k' := Text.trimStart_cons_ink hblank _
  cases hnot : scanNot (c :: k') with
  | none => exact Scan.pair_eq_none_left hnot
  | some b =>
    obtain ⟨w, u⟩ := b
    obtain ⟨u', hu, hword, rfl⟩ := scanNot_eq_some htrim hnot
    rw [hu] at hk hs hnot ⊢
    cases hk with
    | delimited hc => simp at hc
    | @word _ hk =>
      cases u' with
      | nil => exact Scan.pair_eq_none_right hnot (by rw [scanPattern_eq]; rfl)
      | cons d u' => exact absurd h (pair_scanNot_ne_none hs hword (isWordChar_iff.mpr (hk.all d (by simp))))

/-- How a pattern stands in a query, maybe negated. -/
def NegatableAt (k : List Char) (v : Bool × PatternKind × String) : Prop :=
  (v.1 = false ∧ PatternAt k v.2) ∨
    v.1 = true ∧ ∃ w h, scanNot k = some (w, h) ∧ PatternAt h v.2

theorem ends_scanNegatable {v : Bool × PatternKind × String}
    (h : scanNegatable s = some (v, r)) :
    ∃ k, scanNegatable.Ends s k v r ∧ NegatableAt k v := by
  rcases Option.or_eq_some_iff.mp h with h | ⟨hnone, h⟩
  · obtain ⟨⟨w, p⟩, hpair, rfl⟩ := Scan.map_eq_some_iff.mp h
    obtain ⟨r', hnot, hp⟩ := Scan.pair_eq_some_iff.mp hpair
    obtain ⟨k, hk⟩ := begins_scanNot hnot
    obtain ⟨k', hk', hat⟩ := begins_scanPattern hp
    obtain ⟨w, -, hends, hrest⟩ := hk.pair hk'.ends
    exact ⟨_, (hends.map _).orElse_left, .inr ⟨rfl, _, k', hrest, hat⟩⟩
  · obtain ⟨p, hp, rfl⟩ := Scan.map_eq_some_iff.mp h
    obtain ⟨k, hk, hat⟩ := begins_scanPattern hp
    obtain ⟨w, -, hs⟩ := hk.split
    have hnone := pair_scanNot_eq_none hat hs (Scan.map_eq_none_iff.mp hnone)
    exact ⟨k, (hk.ends.map _).orElse_right (Scan.map_eq_none_iff.mpr hnone), .inl ⟨rfl, hat⟩⟩

/-- What is asked of the terms of a query: a column is known, and the text of a word can stand in a
query as a word. -/
structure IsTerm (directory : Directory) (term : Term) : Prop where
  known : ∀ key, term.column = some key → isKnown directory key = true
  word : term.kind = .word → IsWord term.text.toList

theorem PatternAt.isWord {kind : PatternKind} {text : String} (h : PatternAt k (kind, text))
    (hkind : kind = .word) : IsWord text.toList := by
  cases h with
  | word hk => rwa [String.toList_ofList]
  | delimited _ hne => exact absurd hkind hne

theorem NegatableAt.isWord {negate : Bool} {kind : PatternKind} {text : String}
    (h : NegatableAt k (negate, kind, text)) (hkind : kind = .word) : IsWord text.toList := by
  rcases h with ⟨-, h⟩ | ⟨-, w, k', -, h⟩
  · exact h.isWord hkind
  · exact h.isWord hkind

/-- What can be negated is no column, nor a negated one. -/
theorem NegatableAt.no_column {v : Bool × PatternKind × String} (h : NegatableAt k v)
    (hk : Solid k) :
    scanColumn directory k = none ∧
      scanNot.pair ((scanColumn directory).pair scanPattern) k = none := by
  have hafter : ∀ {w : String} {u : List Char}, scanColumn directory u = none →
      scanNot k = some (w, u) →
        scanNot.pair ((scanColumn directory).pair scanPattern) k = none := fun hu hnot =>
    Scan.pair_eq_none_right hnot (Scan.pair_eq_none_left hu)
  obtain ⟨negate, kind, text⟩ := v
  rcases h with ⟨-, h⟩ | ⟨-, w, k', hnot, h⟩
  · refine ⟨h.scanColumn_eq_none, ?_⟩
    cases hnot : scanNot k with
    | none => exact Scan.pair_eq_none_left hnot
    | some b =>
      -- The colon of a column would stand in what follows `NOT`, and so in the pattern.
      refine hafter (u := b.2) ?_ hnot
      obtain ⟨u, hu, -, hb⟩ := scanNot_eq_some hk.trimStart_eq hnot
      refine Grammar.scanColumn_eq_none fun hcolon => ?_
      rw [hb, Text.trimStart_trimStart] at hcolon
      have hmem : ':' ∈ u :=
        (Text.trimStart_suffix u).subset (List.mem_of_mem_head? hcolon)
      cases h with
      | word hword =>
        exact (hword.all ':' (by rw [hu]; simp [hmem])).1 rfl
      | delimited hc => simp at hu; simp [hu] at hc
  · refine ⟨?_, hafter h.scanColumn_eq_none hnot⟩
    obtain ⟨u, rfl, -, -⟩ := scanNot_eq_some hk.trimStart_eq hnot
    exact Grammar.scanColumn_eq_none (by rw [hk.trimStart_eq]; simp)

/-- A term is the only term of a piece of the text. -/
theorem ends_scanTerm {term : Term} (h : scanTerm directory s = some (term, r)) :
    ∃ k, (scanTerm directory).Ends s k term r ∧ IsTerm directory term := by
  rcases Option.or_eq_some_iff.mp h with h | ⟨-, h⟩
  · obtain ⟨⟨w, key, kind, text⟩, hpair, rfl⟩ := Scan.map_eq_some_iff.mp h
    obtain ⟨r₁, hnot, hpair⟩ := Scan.pair_eq_some_iff.mp hpair
    obtain ⟨r₂, hcolumn, hp⟩ := Scan.pair_eq_some_iff.mp hpair
    obtain ⟨k₁, hk₁⟩ := begins_scanNot hnot
    obtain ⟨⟨k₂, hk₂⟩, hknown⟩ := begins_scanColumn hcolumn
    obtain ⟨k₃, hk₃, hat⟩ := begins_scanPattern hp
    obtain ⟨_, -, hends, -⟩ := hk₂.pair hk₃.ends
    obtain ⟨_, -, hends, -⟩ := hk₁.pair hends
    refine ⟨_, (hends.map _).orElse_left, ?_, hat.isWord⟩
    rintro key ⟨⟩
    exact hknown
  rcases Option.or_eq_some_iff.mp h with h | ⟨-, h⟩
  · obtain ⟨⟨key, negate, kind, text⟩, hpair, rfl⟩ := Scan.map_eq_some_iff.mp h
    obtain ⟨r₁, hcolumn, hn⟩ := Scan.pair_eq_some_iff.mp hpair
    obtain ⟨⟨k₁, hk₁⟩, hknown⟩ := begins_scanColumn hcolumn
    obtain ⟨k₂, hk₂, hat⟩ := ends_scanNegatable hn
    obtain ⟨w, -, hends, hrest⟩ := hk₁.pair hk₂
    -- The piece begins with a column, hence with a colon, so no `NOT` is read first.
    have hnot : scanNot (k₁ ++ (w ++ k₂)) = none := by
      refine Grammar.scanNot_eq_none fun hn => ?_
      have hcolumn : scanColumn directory (k₁ ++ (w ++ k₂)) = none :=
        Grammar.scanColumn_eq_none (by rw [hn]; decide)
      rw [hrest] at hcolumn
      cases hcolumn
    refine ⟨_, (hends.map _).orElse_left.orElse_right ?_, ?_, hat.isWord⟩
    · exact Scan.map_eq_none_iff.mpr (Scan.pair_eq_none_left hnot)
    · rintro key ⟨⟩
      exact hknown
  · obtain ⟨⟨negate, kind, text⟩, hn, rfl⟩ := Scan.map_eq_some_iff.mp h
    obtain ⟨k, hk, hat⟩ := ends_scanNegatable hn
    obtain ⟨hcolumn, hnegated⟩ := @NegatableAt.no_column directory _ _ hat hk.solid
    refine ⟨k, ((hk.map _).orElse_right ?_).orElse_right ?_, ?_, hat.isWord⟩
    · exact Scan.map_eq_none_iff.mpr (Scan.pair_eq_none_left hcolumn)
    · exact Scan.map_eq_none_iff.mpr hnegated
    · rintro key ⟨⟩

/-- The pieces of a text that is read to its end, with the white space after each of them. -/
theorem pieces_of_chain {terms : List Term} (h : (scanTerm directory).Chain s terms) :
    ∃ (w : List Char) (pieces : List (List Char × List Char)),
      Blank w ∧ s = w ++ pieces.flatMap (fun p => p.1 ++ p.2) ∧
      List.Forall₂ (fun term p => Solid p.1 ∧ Blank p.2 ∧ scanTerm directory p.1 = some (term, []))
        terms pieces := by
  induction h with
  | nil => exact ⟨[], [], by simp [Blank], rfl, .nil⟩
  | @cons s r term terms hterm _ ih =>
    obtain ⟨k, hk, -⟩ := ends_scanTerm hterm
    obtain ⟨w, hw, hs⟩ := Text.exists_eq_append_trimStart s
    obtain ⟨w', hw', hsplit⟩ := hk.split
    obtain ⟨w'', pieces, hw'', hr, hpieces⟩ := ih
    refine ⟨w, (k, w' ++ w'') :: pieces, hw, ?_, .cons ⟨hk.solid, hw'.append hw'', hk.alone⟩ hpieces⟩
    rw [hs, hsplit, hr]
    simp

theorem isTerm_of_chain {terms : List Term} (h : (scanTerm directory).Chain s terms) :
    ∀ term ∈ terms, IsTerm directory term := by
  induction h with
  | nil => simp
  | cons hterm _ ih =>
    obtain ⟨k, -, hk⟩ := ends_scanTerm hterm
    intro term hmem
    rcases List.mem_cons.mp hmem with rfl | hmem
    · exact hk
    · exact ih term hmem

/-- A query with terms is white space and pieces, each with white space after it. Read alone, each
piece is a query with one of the terms; the columns of the terms are known, and their words can stand
in a query as words. -/
theorem cut_of_parse? {diagnostics : Diagnostics} {query : List Char} {terms : List Term}
    (h : parse? diagnostics directory query = some terms) :
    terms ≠ [] ∧
      (∃ (w : List Char) (pieces : List (List Char × List Char)),
        Blank w ∧ query = w ++ pieces.flatMap (fun p => p.1 ++ p.2) ∧
        List.Forall₂ (fun term p => Solid p.1 ∧ Blank p.2 ∧
          parse? diagnostics directory p.1 = some [term]) terms pieces) ∧
      ∀ term ∈ terms, IsTerm directory term := by
  obtain ⟨hne, hchain⟩ := (parse?_iff diagnostics directory query terms).mp h
  obtain ⟨w, pieces, hw, hquery, hpieces⟩ := pieces_of_chain hchain
  refine ⟨hne, ⟨w, pieces, hw, hquery, hpieces.imp ?_⟩, isTerm_of_chain hchain⟩
  rintro term p ⟨hsolid, hblank, halone⟩
  refine ⟨hsolid, hblank, (parse?_iff _ _ _ _).mpr ⟨by simp, .cons halone .nil⟩⟩

/-- Terms need no white space between them. -/
theorem cut_of_adjacent_terms :
    ∃ (w : List Char) (pieces : List (List Char × List Char)), pieces.length = 3 ∧
      "NOT :\"a b\" x\"y/\" NOT".toList = w ++ pieces.flatMap (fun p => p.1 ++ p.2) := by
  have h : parse? .silent ⟨[⟨"a b", none, some 1, 0, 1⟩]⟩ "NOT :\"a b\" x\"y/\" NOT".toList =
      some [⟨some "a b", .word, "x", true⟩, ⟨none, .quote, "y/", false⟩,
        ⟨none, .word, "NOT", false⟩] := by decide +kernel
  obtain ⟨-, ⟨w, pieces, -, hquery, hpieces⟩, -⟩ := cut_of_parse? h
  exact ⟨w, pieces, hpieces.length_eq.symm, hquery⟩

end Grammar
end RowQuery
