import RowQuery.Proofs.Query.Cutting
import RowQuery.Proofs.Unicode.Blank

/-!
How terms are spelled in a query.

* `Token.escaped`: a text with a backslash before some of its characters.
* `Token.Paired`: texts whose backslashes go with characters other than a slash.
* `Grammar.SpellsPattern`, `Grammar.SpellsColumn`, `Grammar.SpellsTerm`, `Grammar.SpellsTerms`: the ways
  to write patterns, columns, terms, and terms one after another.
* `Grammar.parse?_of_spells`: a query reads as the terms that it spells.
-/
namespace RowQuery

namespace Text

/-- White space between one token and the next. -/
structure Gap (g : List Char) : Prop where
  ne_nil : g ≠ []
  blank : Blank g

/-- What can follow a token without being part of it: nothing, or white space. -/
def Apart (q : List Char) : Prop := ∀ c ∈ q.head?, isBlank c = true

theorem Blank.apart {w : List Char} (h : Blank w) : Apart w :=
  fun c hc => h c (List.mem_of_mem_head? hc)

theorem Gap.apart {g : List Char} (h : Gap g) (s : List Char) : Apart (g ++ s) := by
  intro c hc
  rw [List.head?_append_of_ne_nil _ h.ne_nil] at hc
  exact h.blank.apart c hc

end Text

namespace Token

open Text (Apart)

variable {c d : Char} {s q r : List Char}

/-! ## Texts between delimiters -/

/-- A text with a backslash before each of the characters listed. -/
def escaped (listed text : List Char) : List Char :=
  text.flatMap fun c => if listed.contains c then ['\\', c] else [c]

/-- If each backslash goes with the character after it, from the left, then none is left over and none
goes with a slash. -/
def Paired : List Char → Prop
  | [] => True
  | [c] => c ≠ '\\'
  | c :: d :: r => if c = '\\' then d ≠ '/' ∧ Paired r else Paired (d :: r)

theorem unescape_cons_of_ne (hc : c ≠ '\\') (listed r : List Char) :
    unescape listed (c :: r) = c :: unescape listed r := by
  cases r with
  | nil => rfl
  | cons d r => rw [unescape, if_neg hc]

theorem inner_cons_of_ne (hd : c ≠ d) (hc : c ≠ '\\') (r : List Char) :
    inner d (c :: r) = (inner d r).map (c :: ·) :=
  inner_cons_of_unpaired hd fun h => hc h.1

/-- A backslash goes with a delimiter or a backslash if there is an end behind them. -/
theorem inner_pair (hd : d ≠ '\\') (hc : c = d ∨ c = '\\') {body : List Char}
    (h : inner d r = some body) : inner d ('\\' :: c :: r) = some ('\\' :: c :: body) := by
  rw [inner, if_neg hd.symm, if_pos ⟨rfl, hc⟩, h]
  rfl

/-- What a quote's text reads as, with its quotes and backslashes escaped. -/
theorem inner_escaped_quote (text q : List Char) :
    inner '"' (escaped ['"', '\\'] text ++ '"' :: q) = some (escaped ['"', '\\'] text) := by
  induction text with
  | nil => exact inner_cons_self '"' q
  | cons c text ih =>
    by_cases hc : c = '"' ∨ c = '\\'
    · have hcons : escaped ['"', '\\'] (c :: text) = '\\' :: c :: escaped ['"', '\\'] text := by
        simp [escaped, hc]
      rw [hcons]
      exact inner_pair (by decide) hc ih
    · have hcons : escaped ['"', '\\'] (c :: text) = c :: escaped ['"', '\\'] text := by
        simp [escaped, hc]
      obtain ⟨hquote, hback⟩ := not_or.mp hc
      rw [hcons, List.cons_append, inner_cons_of_ne hquote hback, ih]
      rfl

theorem unescape_escaped_quote (text : List Char) :
    unescape ['"', '\\'] (escaped ['"', '\\'] text) = text := by
  induction text with
  | nil => rfl
  | cons c text ih =>
    by_cases hc : c = '"' ∨ c = '\\'
    · have hcons : escaped ['"', '\\'] (c :: text) = '\\' :: c :: escaped ['"', '\\'] text := by
        simp [escaped, hc]
      rw [hcons, unescape, if_pos rfl, if_pos (by simpa using hc), ih]
    · have hcons : escaped ['"', '\\'] (c :: text) = c :: escaped ['"', '\\'] text := by
        simp [escaped, hc]
      rw [hcons, unescape_cons_of_ne (not_or.mp hc).2, ih]

/-- The slashes of a text have a backslash, and a backslash of the text stays with its character. -/
theorem escaped_slash_cons (c : Char) (text : List Char) :
    escaped ['/'] (c :: text) =
      if c = '/' then '\\' :: '/' :: escaped ['/'] text else c :: escaped ['/'] text := by
  by_cases hc : c = '/' <;> simp [escaped, hc]

theorem inner_escaped_regex {text : List Char} (h : Paired text) (q : List Char) :
    inner '/' (escaped ['/'] text ++ '/' :: q) = some (escaped ['/'] text) := by
  fun_induction Paired text with
  | case1 => exact inner_cons_self '/' q
  | case2 c =>
    rw [escaped_slash_cons]
    split
    · exact inner_pair (by decide) (.inl rfl) (inner_cons_self '/' q)
    · next hc =>
      rw [List.cons_append, inner_cons_of_ne hc h]
      exact congrArg _ (inner_cons_self '/' q)
  | case3 d r ih =>
    have hr := ih h.2
    rw [escaped_slash_cons, if_neg (by decide), escaped_slash_cons, if_neg h.1]
    by_cases hd : d = '\\'
    · exact inner_pair (by decide) (.inr hd) hr
    · -- The backslash makes no pair here, so both characters are read one by one.
      have hpair : ¬('\\' = '\\' ∧ ∃ y ∈ (d :: (escaped ['/'] r ++ '/' :: q)).head?, y = '/' ∨ y = '\\') := by
        simp [h.1, hd]
      rw [List.cons_append, List.cons_append, inner_cons_of_unpaired (by decide) hpair,
        inner_cons_of_ne h.1 hd, hr]
      rfl
  | case4 c d r hc ih =>
    have hr := ih h
    rw [escaped_slash_cons]
    split
    · exact inner_pair (by decide) (.inl rfl) hr
    · next hs =>
      rw [List.cons_append, inner_cons_of_ne hs hc, hr]
      rfl

theorem unescape_escaped_regex {text : List Char} (h : Paired text) :
    unescape ['/'] (escaped ['/'] text) = text := by
  have hslash : ∀ r, unescape ['/'] ('\\' :: '/' :: r) = '/' :: unescape ['/'] r := fun r => rfl
  fun_induction Paired text with
  | case1 => rfl
  | case2 c =>
    rw [escaped_slash_cons]
    split
    · next hc =>
      rw [hslash, hc]
      rfl
    · rfl
  | case3 d r ih =>
    rw [escaped_slash_cons, if_neg (by decide), escaped_slash_cons, if_neg h.1, unescape, if_pos rfl,
      if_neg (by simpa using h.1), ih h.2]
  | case4 c d r hc ih =>
    rw [escaped_slash_cons]
    split
    · next hs => rw [hslash, ih h, hs]
    · rw [unescape_cons_of_ne hc, ih h]

/-! ## Tokens -/

theorem inWord_of_apart (h : Apart q) : Regex.inWord false q.head? = false := by
  cases q with
  | nil => rfl
  | cons c q => exact Unicode.Property.mem_word_of_isBlank (h c rfl)

/-- After `NOT` and white space comes what is negated. -/
theorem not?_of_apart (h : Apart q) : not? ('N' :: 'O' :: 'T' :: q) = some (['N', 'O', 'T'], q) := by
  rw [not?, inWord_of_apart h]
  rfl

/-- White space after a text makes no `NOT` of it. -/
theorem not?_append_eq_none (h : not? s = none) (hq : Apart q) : not? (s ++ q) = none := by
  by_contra hne
  obtain ⟨⟨w, r⟩, hsome⟩ := Option.ne_none_iff_exists'.mp hne
  unfold not? at hsome
  split at hsome
  · next r' hs =>
    -- White space is no letter of `NOT`, so all three letters are of the text.
    have hletter : ∀ {x : Char} {t t' : List Char}, t ++ q = x :: t' → Text.isBlank x = false →
        ∃ t'', t = x :: t'' ∧ t'' ++ q = t' := by
      intro x t t' ht hx
      cases t with
      | nil =>
        have := hq x (by rw [show q = x :: t' from ht]; rfl)
        rw [hx] at this
        cases this
      | cons y t =>
        cases ht
        exact ⟨t, rfl, rfl⟩
    obtain ⟨s₁, rfl, hs₁⟩ := hletter hs (by decide)
    obtain ⟨s₂, rfl, hs₂⟩ := hletter hs₁ (by decide)
    obtain ⟨s₃, rfl, rfl⟩ := hletter hs₂ (by decide)
    rw [not?] at h
    split at h
    · next hword =>
      have hhead : Regex.inWord false (s₃ ++ q).head? = true := by
        cases s₃ with
        | nil => cases hword
        | cons c t => exact hword
      rw [if_pos hhead] at hsome
      cases hsome
    · cases h
  · cases hsome

theorem run?_of_apart {f : Char → Bool} (hf : ∀ c, f c = true → Text.isBlank c = false)
    (hne : s ≠ []) (hs : ∀ c ∈ s, f c = true) (hq : Apart q) : run? f (s ++ q) = some (s, q) := by
  refine run?_eq_some_iff.mpr ⟨rfl, hne, hs, fun c hc => ?_⟩
  by_contra hfc
  have hblank := hf c (by simpa using hfc)
  rw [hq c hc] at hblank
  cases hblank

end Token

namespace Grammar

open Text (Blank Gap Apart)

/-! ## Spellings -/

/-- The ways to write a pattern. A word that reads as `NOT` has to be written as a quote. -/
inductive SpellsPattern : PatternKind → String → List Char → Prop
  | word {text : String} (hw : IsWord text.toList)
      (hnot : Token.not.regex.isMatch text.toList = false) : SpellsPattern .word text text.toList
  | quote (text : String) :
      SpellsPattern .quote text ('"' :: (Token.escaped ['"', '\\'] text.toList ++ ['"']))
  | regex {text : String} (hp : Token.Paired text.toList) :
      SpellsPattern .regex text ('/' :: (Token.escaped ['/'] text.toList ++ ['/']))

/-- The ways to write a column that the directory knows. -/
inductive SpellsColumn (directory : Directory) : String → List Char → Prop
  | name {key : String} (hknown : isKnown directory key = true) (hne : key.toList ≠ [])
      (hkey : ∀ c ∈ key.toList, c ≠ ':' ∧ Text.isBlank c = false)
      (hquote : key.toList.head? ≠ some '"') : SpellsColumn directory key (':' :: key.toList)
  | quoted {key : String} (hknown : isKnown directory key = true) (hne : key.toList ≠ [])
      (hkey : '"' ∉ key.toList) :
      SpellsColumn directory key (':' :: '"' :: (key.toList ++ ['"']))

/-- The ways to write a term. -/
inductive SpellsTerm (directory : Directory) : Term → List Char → Prop
  | bare {kind : PatternKind} {text : String} {s : List Char} (hs : SpellsPattern kind text s) :
      SpellsTerm directory ⟨none, kind, text, false⟩ s
  | bareNot {kind : PatternKind} {text : String} {g s : List Char} (hg : Gap g)
      (hs : SpellsPattern kind text s) :
      SpellsTerm directory ⟨none, kind, text, true⟩ ('N' :: 'O' :: 'T' :: (g ++ s))
  | column {key : String} {kind : PatternKind} {text : String} {k g s : List Char}
      (hk : SpellsColumn directory key k) (hg : Gap g) (hs : SpellsPattern kind text s) :
      SpellsTerm directory ⟨some key, kind, text, false⟩ (k ++ (g ++ s))
  | notColumn {key : String} {kind : PatternKind} {text : String} {g k g' s : List Char}
      (hg : Gap g) (hk : SpellsColumn directory key k) (hg' : Gap g')
      (hs : SpellsPattern kind text s) :
      SpellsTerm directory ⟨some key, kind, text, true⟩
        ('N' :: 'O' :: 'T' :: (g ++ (k ++ (g' ++ s))))
  | columnNot {key : String} {kind : PatternKind} {text : String} {k g g' s : List Char}
      (hk : SpellsColumn directory key k) (hg : Gap g) (hg' : Gap g')
      (hs : SpellsPattern kind text s) :
      SpellsTerm directory ⟨some key, kind, text, true⟩
        (k ++ (g ++ ('N' :: 'O' :: 'T' :: (g' ++ s))))

/-- The ways to write terms one after another. -/
inductive SpellsTerms (directory : Directory) : List Term → List Char → Prop
  | one {term : Term} {s : List Char} (hs : SpellsTerm directory term s) :
      SpellsTerms directory [term] s
  | cons {term : Term} {terms : List Term} {s g r : List Char} (hs : SpellsTerm directory term s)
      (hg : Gap g) (hr : SpellsTerms directory terms r) :
      SpellsTerms directory (term :: terms) (s ++ (g ++ r))

variable {directory : Directory} {kind : PatternKind} {text key : String} {s k g q : List Char}

/-- The pattern of `NOT` matches where the word is read. -/
theorem isMatch_not (s : List Char) : Token.not.regex.isMatch s = (Token.not? s).isSome := by
  have hmatch := Token.regexMatch_not s
  rw [Parser.regexMatch, Scan.map] at hmatch
  rw [Regex.isMatch]
  cases hfind : Token.not.regex.find? s <;> cases hnot : Token.not? s <;>
    simp [hfind, hnot, Match.ofOption] at hmatch ⊢

theorem not?_of_isMatch (h : Token.not.regex.isMatch s = false) : Token.not? s = none := by
  simpa [isMatch_not] using h

/-- What is read where a pattern is spelled. -/
structure ReadsPattern (kind : PatternKind) (text : String) (s : List Char) : Prop where
  ink : ∀ q, Text.trimStart (s ++ q) = s ++ q
  pattern : ∀ q, Apart q → scanPattern (s ++ q) = some ((kind, text), Text.trimStart q)
  not : ∀ q, Apart q → scanNot (s ++ q) = none
  column : ∀ directory q, scanColumn directory (s ++ q) = none

/-- A pattern between delimiters. -/
theorem readsPattern_of_delimited {c : Char} {body : List Char} {kind : PatternKind} {text : String}
    (hc : c = '"' ∨ c = '/')
    (hread : ∀ q, pattern? (c :: (body ++ c :: q)) = some ((kind, text), q)) :
    ReadsPattern kind text (c :: (body ++ [c])) := by
  have hblank : Text.isBlank c = false := by
    rcases hc with rfl | rfl
    · decide
    · decide
  have hink : ∀ q, Text.trimStart (c :: (body ++ [c]) ++ q) = c :: (body ++ c :: q) := by
    intro q
    rw [List.cons_append, Text.trimStart_cons_ink hblank, List.append_assoc]
    rfl
  refine ⟨fun q => ?_, fun q _ => ?_, fun q _ => scanNot_eq_none ?_, fun directory q =>
    scanColumn_eq_none ?_⟩
  · rw [hink]
    simp
  · rw [scanPattern_eq, Scan.trim, hink, hread]
    rfl
  · rw [hink]
    rcases hc with rfl | rfl <;> simp
  · rw [hink]
    rcases hc with rfl | rfl <;> simp

theorem SpellsPattern.reads (h : SpellsPattern kind text s) : ReadsPattern kind text s := by
  cases h with
  | word hw hnot =>
    have hsolid : Text.Solid text.toList :=
      .of_forall hw.ne_nil fun c hc => (hw.all c hc).2.2.2
    have hword : ∀ c ∈ text.toList, Token.isWordChar c = true := fun c hc =>
      isWordChar_iff.mpr (hw.all c hc)
    refine ⟨hsolid.trimStart_append, fun q hq => ?_, fun q hq => ?_, fun directory q => ?_⟩
    · have hrun : Token.word? (text.toList ++ q) = some (text.toList, q) :=
        Token.run?_of_apart (fun c => Token.isBlank_of_isWordChar) hw.ne_nil hword hq
      obtain ⟨c, t, ht⟩ := List.exists_cons_of_ne_nil hw.ne_nil
      obtain ⟨-, hquote, hslash, -⟩ := hw.all c (by simp [ht])
      rw [scanPattern_eq, Scan.trim, hsolid.trimStart_append]
      rw [ht] at hrun ⊢
      rw [List.cons_append, pattern?, if_neg hquote, if_neg hslash, ← List.cons_append, hrun, ← ht]
      simp
    · rw [scanNot, Scan.trim, hsolid.trimStart_append, Scan.map,
        Token.not?_append_eq_none (not?_of_isMatch hnot) hq]
      rfl
    · refine scanColumn_eq_none fun hcolon => ?_
      rw [hsolid.trimStart_append, List.head?_append_of_ne_nil _ hw.ne_nil] at hcolon
      exact (hw.all ':' (List.mem_of_mem_head? hcolon)).1 rfl
  | quote =>
    refine readsPattern_of_delimited (.inl rfl) fun q => ?_
    have hdelimited : Token.delimited? '"'
        ('"' :: (Token.escaped ['"', '\\'] text.toList ++ '"' :: q)) =
          some (Token.escaped ['"', '\\'] text.toList, q) := by
      rw [Token.delimited?, if_pos rfl, Token.inner_escaped_quote]
      simp
    have htext : Token.unescapeQuote (String.ofList (Token.escaped ['"', '\\'] text.toList)) = text := by
      rw [Token.unescapeQuote, String.toList_ofList, Token.unescape_escaped_quote,
        String.ofList_toList]
    rw [pattern?, if_pos rfl, hdelimited]
    simp [htext]
  | regex hp =>
    refine readsPattern_of_delimited (.inr rfl) fun q => ?_
    have hdelimited : Token.delimited? '/'
        ('/' :: (Token.escaped ['/'] text.toList ++ '/' :: q)) =
          some (Token.escaped ['/'] text.toList, q) := by
      rw [Token.delimited?, if_pos rfl, Token.inner_escaped_regex hp]
      simp
    have htext : Token.unescapeRegex (String.ofList (Token.escaped ['/'] text.toList)) = text := by
      rw [Token.unescapeRegex, String.toList_ofList, Token.unescape_escaped_regex hp,
        String.ofList_toList]
    rw [pattern?, if_neg (by decide), if_pos rfl, hdelimited]
    simp [htext]

/-- After `NOT` a gap is dropped. -/
theorem scanNot_gap (hg : Gap g) (s : List Char) :
    scanNot ('N' :: 'O' :: 'T' :: (g ++ s)) = some ("NOT", Text.trimStart s) := by
  have hnot := Token.not?_of_apart (hg.apart s)
  rw [scanNot, Scan.trim, Text.trimStart_cons_ink (by decide), Scan.map, hnot]
  show some (_, Text.trimStart (g ++ s)) = _
  rw [Text.trimStart_append hg.blank]

/-- What is read where a column is spelled. -/
structure ReadsColumn (directory : Directory) (key : String) (s : List Char) : Prop where
  ink : ∀ q, Text.trimStart (s ++ q) = s ++ q
  column : ∀ q, Apart q → scanColumn directory (s ++ q) = some (key, Text.trimStart q)
  not : ∀ q, scanNot (s ++ q) = none

theorem SpellsColumn.reads (h : SpellsColumn directory key s) : ReadsColumn directory key s := by
  have hcolon : ∀ t, Text.trimStart (':' :: t) = ':' :: t := fun t =>
    Text.trimStart_cons_ink (by decide) t
  cases h with
  | name hknown hne hkey hquote =>
    refine ⟨fun q => hcolon _, fun q hq => ?_, fun q => scanNot_eq_none (by simp [hcolon])⟩
    have hname : Token.name? (':' :: (key.toList ++ q)) = some (key.toList, q) := by
      rw [Token.name?, if_pos rfl]
      refine Token.run?_of_apart (fun c => Token.isBlank_of_isNameChar) hne (fun c hc => ?_) hq
      simp [Token.isNameChar, hkey c hc]
    have hquoted : Token.quotedName? (':' :: (key.toList ++ q)) = none := by
      obtain ⟨c, t, ht⟩ := List.exists_cons_of_ne_nil hne
      rw [ht] at hquote ⊢
      exact if_neg fun h => hquote (by rw [h.2]; rfl)
    rw [List.cons_append, scanColumn, Scan.orElse]
    simp only [Scan.keep, Scan.trim, Scan.map, hcolon, hquoted, hname]
    simp [hknown]
  | quoted hknown hne hkey =>
    refine ⟨fun q => hcolon _, fun q _ => ?_, fun q => scanNot_eq_none (by simp [hcolon])⟩
    have hquoted : Token.quotedName? (':' :: '"' :: (key.toList ++ ['"'] ++ q)) =
        some (key.toList, q) :=
      Token.quotedName?_eq_some_iff.mpr ⟨by simp, hne, hkey⟩
    rw [List.cons_append, List.cons_append, scanColumn, Scan.orElse]
    simp only [Scan.keep, Scan.trim, Scan.map, hcolon, hquoted]
    simp [hknown]

theorem scanNegatable_bare (h : ReadsPattern kind text s) (hq : Apart q) :
    scanNegatable (s ++ q) = some ((false, kind, text), Text.trimStart q) := by
  rw [scanNegatable, Scan.orElse]
  simp only [Scan.map, Scan.pair, h.not q hq, h.pattern q hq]
  rfl

theorem scanNegatable_not (hg : Gap g) (h : ReadsPattern kind text s) (hq : Apart q) :
    scanNegatable ('N' :: 'O' :: 'T' :: (g ++ (s ++ q))) =
      some ((true, kind, text), Text.trimStart q) := by
  rw [scanNegatable, Scan.orElse]
  simp only [Scan.map, Scan.pair, scanNot_gap hg, h.ink, h.pattern q hq]
  rfl

/-- A term is read where it is spelled, if the end of the text or white space follows. -/
theorem SpellsTerm.scan {term : Term} (h : SpellsTerm directory term s) (hq : Apart q) :
    scanTerm directory (s ++ q) = some (term, Text.trimStart q) := by
  have hN : ∀ t, scanColumn directory ('N' :: t) = none := fun t =>
    scanColumn_eq_none (by rw [Text.trimStart_cons_ink (by decide)]; simp)
  -- The alternatives of a term are tried in turn, so each case also shows that those before it fail.
  rw [scanTerm, Scan.orElse, Scan.orElse]
  cases h with
  | bare hs =>
    have hs := hs.reads
    simp only [Scan.map, Scan.pair, hs.not q hq, hs.column directory q, scanNegatable_bare hs hq]
    rfl
  | @bareNot _ _ g s hg hs =>
    have hs := hs.reads
    simp only [List.cons_append, List.append_assoc, Scan.map, Scan.pair, scanNot_gap hg, hs.ink,
      hs.column directory q, hN, scanNegatable_not hg hs hq]
    rfl
  | @column _ _ _ k g s hk hg hs =>
    have hk := hk.reads
    have hs := hs.reads
    have hcolumn := hk.column (g ++ (s ++ q)) (hg.apart _)
    rw [Text.trimStart_append hg.blank, hs.ink] at hcolumn
    simp only [List.append_assoc, Scan.map, Scan.pair, hk.not, hcolumn, scanNegatable_bare hs hq]
    rfl
  | @notColumn _ _ _ g k g' s hg hk hg' hs =>
    have hk := hk.reads
    have hs := hs.reads
    have hcolumn := hk.column (g' ++ (s ++ q)) (hg'.apart _)
    rw [Text.trimStart_append hg'.blank, hs.ink] at hcolumn
    simp only [List.cons_append, List.append_assoc, Scan.map, Scan.pair, scanNot_gap hg, hk.ink,
      hcolumn, hs.pattern q hq]
    rfl
  | @columnNot _ _ _ k g g' s hk hg hg' hs =>
    have hk := hk.reads
    have hs := hs.reads
    have hcolumn := hk.column (g ++ ('N' :: 'O' :: 'T' :: (g' ++ (s ++ q)))) (hg.apart _)
    rw [Text.trimStart_append hg.blank, Text.trimStart_cons_ink (by decide)] at hcolumn
    simp only [List.cons_append, List.append_assoc, Scan.map, Scan.pair, hk.not, hcolumn,
      scanNegatable_not hg' hs hq]
    rfl

theorem SpellsTerm.trimStart {term : Term} (h : SpellsTerm directory term s) (q : List Char) :
    Text.trimStart (s ++ q) = s ++ q := by
  have hN : ∀ t, Text.trimStart ('N' :: t) = 'N' :: t := fun t =>
    Text.trimStart_cons_ink (by decide) t
  cases h with
  | bare hs => exact hs.reads.ink q
  | bareNot => exact hN _
  | column hk => rw [List.append_assoc, hk.reads.ink]
  | notColumn => exact hN _
  | columnNot hk => rw [List.append_assoc, hk.reads.ink]

/-- The terms of a text are read where they are spelled one after another. -/
theorem SpellsTerms.chain {terms : List Term} (h : SpellsTerms directory terms s) {w : List Char}
    (hw : Blank w) : (scanTerm directory).Chain (s ++ w) terms ∧
      Text.trimStart (s ++ w) = s ++ w := by
  induction h with
  | one hs =>
    refine ⟨.cons (hs.scan hw.apart) ?_, hs.trimStart w⟩
    rw [Text.trimStart_eq_nil hw]
    exact .nil
  | @cons term terms s g r hs hg _ ih =>
    obtain ⟨hchain, hr⟩ := ih
    have hscan := hs.scan (hg.apart (r ++ w))
    rw [Text.trimStart_append hg.blank, hr] at hscan
    rw [List.append_assoc, List.append_assoc]
    exact ⟨.cons hscan hchain, hs.trimStart _⟩

/-- White space before a term does not count. -/
theorem scanTerm_append {w : List Char} (hw : Blank w) (s : List Char) :
    scanTerm directory (w ++ s) = scanTerm directory s := by
  simp only [scanTerm, scanNegatable, scanPattern, scanColumn, scanNot, Scan.orElse, Scan.map,
    Scan.pair, Scan.keep, Scan.trim, Text.trimStart_append hw]

/-- A query reads as the terms that it spells, with white space around them or not. -/
theorem parse?_of_spells {terms : List Term} {w w' : List Char} (hw : Blank w)
    (h : SpellsTerms directory terms s) (hw' : Blank w') (diagnostics : Diagnostics) :
    parse? diagnostics directory (w ++ (s ++ w')) = some terms := by
  obtain ⟨hchain, -⟩ := h.chain hw'
  have hne : terms ≠ [] := by
    cases h with
    | one => simp
    | cons => simp
  rw [parse?_iff]
  generalize s ++ w' = u at hchain ⊢
  cases hchain with
  | nil => exact absurd rfl hne
  | cons hscan hrest => exact ⟨hne, .cons (by rw [scanTerm_append hw, hscan]) hrest⟩

/-- Two terms, the first with a column in quotes and negated, the second a quote that ends with a
backslash. -/
theorem parse?_two_terms : parse? .silent ⟨[⟨"a b", none, some 1, 0, 1⟩]⟩
    " :\"a b\"\u00a0NOT /x\\/y/ \"z\\\\\"".toList =
      some [⟨some "a b", .regex, "x/y", true⟩, ⟨none, .quote, "z\\", false⟩] := by
  have hgap : ∀ c, Text.isBlank c = true → Gap [c] := fun c hc => ⟨by simp, by simpa [Blank] using hc⟩
  have hcolumn : SpellsColumn ⟨[⟨"a b", none, some 1, 0, 1⟩]⟩ "a b" ":\"a b\"".toList :=
    .quoted (by decide) (by decide) (by decide)
  have hregex : SpellsPattern .regex "x/y" "/x\\/y/".toList := .regex (by simp [Token.Paired])
  have hquote : SpellsPattern .quote "z\\" "\"z\\\\\"".toList := .quote _
  have hfirst := SpellsTerm.columnNot hcolumn (hgap '\u00a0' (by decide)) (hgap ' ' (by decide)) hregex
  have hterms := SpellsTerms.cons hfirst (hgap ' ' (by decide)) (.one (.bare hquote))
  have hnothing : Blank [] := by simp [Blank]
  exact parse?_of_spells (hgap ' ' (by decide)).blank hterms hnothing .silent

end Grammar
end RowQuery
