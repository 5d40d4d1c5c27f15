import RowQuery.Proofs.Query.Token
import RowQuery.Query.Grammar

/-!
The rules of the grammar as scans.

* `Grammar.scanNot`, `Grammar.scanColumn`, `Grammar.scanPattern`, `Grammar.scanNegatable`,
  `Grammar.scanTerm`: what each rule takes.
* `Grammar.queryWhere`, `Grammar.scanTermWhere`: the rules with any test of the columns' names.
* `Grammar.computes_termWhere`: the parser of a term answers as its scan.
* `Grammar.scanPattern_eq`: the first character of a pattern tells which kind it is.
* `Grammar.parse?_iff`: the terms of a query are those of the chain of its terms.
-/
namespace RowQuery.Grammar

open Token (delimited? word? name? quotedName? not?)

/-- Whether a key stands for a column. -/
def isKnown (directory : Directory) (key : String) : Bool := (directory.resolve? key).isSome

/-- What the word takes that negates. -/
def scanNot : Scan String := (not?.map String.ofList).trim

/-- What a column takes that the directory knows. -/
def scanColumn (directory : Directory) : Scan String :=
  (((quotedName?.map String.ofList).trim).keep (isKnown directory)).orElse
    (((name?.map String.ofList).trim).keep (isKnown directory))

/-- What a pattern takes. -/
def scanPattern : Scan (PatternKind × String) :=
  ((((delimited? '"').map String.ofList).trim).map
      fun body => (.quote, Token.unescapeQuote body)).orElse
    (((((delimited? '/').map String.ofList).trim).map
        fun body => (.regex, Token.unescapeRegex body)).orElse
      (((word?.map String.ofList).trim).map fun text => (.word, text)))

/-- What a pattern takes, maybe with `NOT` before it. -/
def scanNegatable : Scan (Bool × PatternKind × String) :=
  ((scanNot.pair scanPattern).map fun (_, kind, text) => (true, kind, text)).orElse
    (scanPattern.map fun (kind, text) => (false, kind, text))

/-- What a term takes. -/
def scanTerm (directory : Directory) : Scan Term :=
  ((scanNot.pair ((scanColumn directory).pair scanPattern)).map
      fun (_, key, kind, text) => { column := some key, kind, text, negate := true }).orElse
    ((((scanColumn directory).pair scanNegatable).map
        fun (key, negate, kind, text) => { column := some key, kind, text, negate }).orElse
      (scanNegatable.map fun (negate, kind, text) => { column := none, kind, text, negate }))

/-! ## Other tests of names -/

/-- A column whose name passes a test. -/
def columnWhere (known : String → Bool) : Parser String :=
  .traced <| .described "column" <| .alternation <| .ofList
    [(Token.bodyParser Token.quotedNamePattern Token.quotedName).trim.keep known,
     (Token.bodyParser Token.namePattern Token.name).trim.keep known]

/-- A term whose column, if it has one, passes a test. -/
def termWhere (known : String → Bool) : Parser Term :=
  .traced <| .described "term" <| .alternation <| .ofList
    [(Parser.pair not (.pair (columnWhere known) pattern)).map
        fun (_, key, kind, text) => { column := some key, kind, text, negate := true },
     (Parser.pair (columnWhere known) negatable).map
        fun (key, negate, kind, text) => { column := some key, kind, text, negate },
     negatable.map fun (negate, kind, text) => { column := none, kind, text, negate }]

/-- A query whose columns pass a test. -/
def queryWhere (known : String → Bool) : Parser (List Term) :=
  .guarded true <| .described "filter" <| .all <| .oneOrMore (termWhere known)

theorem query_eq (directory : Directory) : query directory = queryWhere (isKnown directory) := rfl

/-- What a column takes whose name passes a test. -/
def scanColumnWhere (known : String → Bool) : Scan String :=
  (((quotedName?.map String.ofList).trim).keep known).orElse
    (((name?.map String.ofList).trim).keep known)

/-- What a term takes whose column passes a test. -/
def scanTermWhere (known : String → Bool) : Scan Term :=
  ((scanNot.pair ((scanColumnWhere known).pair scanPattern)).map
      fun (_, key, kind, text) => { column := some key, kind, text, negate := true }).orElse
    ((((scanColumnWhere known).pair scanNegatable).map
        fun (key, negate, kind, text) => { column := some key, kind, text, negate }).orElse
      (scanNegatable.map fun (negate, kind, text) => { column := none, kind, text, negate }))

/-! ## The parsers of the rules -/

theorem computes_not : Grammar.not.Computes scanNot :=
  .described (.trim (.regex Token.regexMatch_not)) _

theorem computes_columnWhere (known : String → Bool) :
    (columnWhere known).Computes (scanColumnWhere known) := by
  have hquoted : ((Token.bodyParser Token.quotedNamePattern Token.quotedName).trim.keep
      known).Computes (((quotedName?.map String.ofList).trim).keep known) :=
    .keep (.trim (.capture Token.regexMatch_quotedName)) _
  have hname : ((Token.bodyParser Token.namePattern Token.name).trim.keep known).Computes
      (((name?.map String.ofList).trim).keep known) :=
    .keep (.trim (.capture Token.regexMatch_name)) _
  exact .traced (.described (.alternation_cons hquoted (.alternation_singleton hname)) _)

theorem computes_pattern : pattern.Computes scanPattern := by
  have hquote : (Token.bodyParser Token.quotePattern Token.quote).trim.Computes
      ((delimited? '"').map String.ofList).trim := .trim (.capture Token.regexMatch_quote)
  have hregex : (Token.bodyParser Token.regexPattern Token.regex).trim.Computes
      ((delimited? '/').map String.ofList).trim := .trim (.capture Token.regexMatch_regex)
  have hword : (Token.parser Token.wordPattern Token.word).trim.Computes
      (word?.map String.ofList).trim := .trim (.regex Token.regexMatch_word)
  exact .traced (.described (.alternation_cons (.map hquote _)
    (.alternation_cons (.map hregex _) (.alternation_singleton (.map hword _)))) _)

theorem computes_negatable : negatable.Computes scanNegatable :=
  .alternation_cons (.map (.pair computes_not computes_pattern) _)
    (.alternation_singleton (.map computes_pattern _))

/-- The parser of a term answers as its scan. -/
theorem computes_termWhere (known : String → Bool) :
    (termWhere known).Computes (scanTermWhere known) := by
  have hnegated := Parser.Computes.pair computes_not
    (.pair (computes_columnWhere known) computes_pattern)
  have hcolumn := Parser.Computes.pair (computes_columnWhere known) computes_negatable
  exact .traced (.described (.alternation_cons (.map hnegated _)
    (.alternation_cons (.map hcolumn _) (.alternation_singleton (.map computes_negatable _)))) _)

/-! ## The first character -/

/-- What a pattern takes of a text that does not begin with white space. -/
def pattern? : Scan (PatternKind × String)
  | [] => none
  | c :: r =>
    if c = '"' then
      (delimited? '"' (c :: r)).map fun (body, r) =>
        ((.quote, Token.unescapeQuote (String.ofList body)), r)
    else if c = '/' then
      (delimited? '/' (c :: r)).map fun (body, r) =>
        ((.regex, Token.unescapeRegex (String.ofList body)), r)
    else (word? (c :: r)).map fun (w, r) => ((.word, String.ofList w), r)

theorem delimited?_cons_of_ne {c d : Char} (h : c ≠ d) (r : List Char) :
    delimited? d (c :: r) = none := if_neg h

theorem word?_cons_of_not {c : Char} (h : Token.isWordChar c = false) (r : List Char) :
    word? (c :: r) = none := by
  simp [word?, Token.run?, h]

/-- The first character of a pattern tells which kind it is. -/
theorem scanPattern_eq : scanPattern = pattern?.trim := by
  funext s
  simp only [scanPattern, Scan.orElse, Scan.map, Scan.trim]
  cases Text.trimStart s with
  | nil => rfl
  | cons c r =>
    rw [pattern?]
    by_cases hq : c = '"'
    · subst hq
      rw [if_pos rfl, @delimited?_cons_of_ne '"' '/' (by decide), word?_cons_of_not (by decide)]
      cases delimited? '"' ('"' :: r) <;> rfl
    · rw [if_neg hq, delimited?_cons_of_ne hq]
      by_cases hs : c = '/'
      · subst hs
        rw [if_pos rfl, word?_cons_of_not (by decide)]
        cases delimited? '/' ('/' :: r) <;> rfl
      · rw [if_neg hs, delimited?_cons_of_ne hs]
        cases word? (c :: r) <;> rfl

/-- A text that does not begin with the first letter of `NOT` does not begin with the word. -/
theorem scanNot_eq_none {s : List Char} (h : (Text.trimStart s).head? ≠ some 'N') :
    scanNot s = none := by
  simp only [scanNot, Scan.trim, Scan.map]
  have hnot : not? (Text.trimStart s) = none := by
    refine Token.not?_eq_none ?_
    rintro ⟨r, hr⟩
    exact h (by rw [← hr]; rfl)
  rw [hnot]
  rfl

/-- A column begins with a colon. -/
theorem scanColumnWhere_eq_none {known : String → Bool} {s : List Char}
    (h : (Text.trimStart s).head? ≠ some ':') : scanColumnWhere known s = none := by
  simp only [scanColumnWhere, Scan.orElse, Scan.keep, Scan.trim, Scan.map]
  have hname : name? (Text.trimStart s) = none := by
    unfold name?
    split
    · rfl
    · next c r hs => exact if_neg fun hc => h (by rw [hs, hc]; rfl)
  have hquoted : quotedName? (Text.trimStart s) = none := by
    refine Token.quotedName?_eq_none ?_
    rintro ⟨r, hr⟩
    exact h (by rw [← hr]; rfl)
  rw [hname, hquoted]
  rfl

theorem scanColumn_eq_none {directory : Directory} {s : List Char}
    (h : (Text.trimStart s).head? ≠ some ':') : scanColumn directory s = none :=
  scanColumnWhere_eq_none h

/-! ## Queries -/

theorem shrinks_run? (p : Char → Bool) : (Token.run? p).Shrinks := by
  intro s w r h
  obtain ⟨rfl, hne, -, -⟩ := Token.run?_eq_some_iff.mp h
  have := List.length_pos_iff.mpr hne
  rw [List.length_append]
  omega

theorem shrinks_not? : not?.Shrinks := by
  intro s a r h
  unfold not? at h
  split at h
  · split at h
    · cases h
    · cases h
      simp only [List.length_cons]
      omega
  · cases h

theorem shrinks_name? : name?.Shrinks := by
  intro s a r h
  unfold name? at h
  split at h
  · cases h
  · split at h
    · exact Nat.lt_succ_of_lt (shrinks_run? _ _ a r h)
    · cases h

theorem shrinks_quotedName? : quotedName?.Shrinks := by
  intro s a r h
  unfold quotedName? at h
  split at h
  · split at h
    · split at h
      · next key _ r' hrun =>
        cases h
        have := shrinks_run? _ _ _ _ hrun
        simp only [List.length_cons] at this ⊢
        omega
      · cases h
    · cases h
  · cases h

theorem shrinks_delimited? (d : Char) : (delimited? d).Shrinks := by
  intro s a r h
  unfold delimited? at h
  split at h
  · cases h
  · split at h
    · obtain ⟨body, -, he⟩ := Option.map_eq_some_iff.mp h
      cases he
      rw [List.length_drop, List.length_cons]
      omega
    · cases h

/-- Every term takes something. -/
theorem shrinks_scanTermWhere (known : String → Bool) : (scanTermWhere known).Shrinks := by
  have hnot : scanNot.Shrinks := .trim (.map shrinks_not? _)
  have hcolumn : (scanColumnWhere known).Shrinks :=
    .orElse (.keep (.trim (.map shrinks_quotedName? _)) _) (.keep (.trim (.map shrinks_name? _)) _)
  have hpattern : scanPattern.Shrinks :=
    .orElse (.map (.trim (.map (shrinks_delimited? _) _)) _)
      (.orElse (.map (.trim (.map (shrinks_delimited? _) _)) _)
        (.map (.trim (.map (shrinks_run? _) _)) _))
  have hnegatable : scanNegatable.Shrinks :=
    .orElse (.map (.pair hnot hpattern) _) (.map hpattern _)
  exact .orElse (.map (.pair hnot (.pair hcolumn hpattern)) _)
    (.orElse (.map (.pair hcolumn hnegatable) _) (.map hnegatable _))

/-- There are no terms in the empty text. -/
theorem ne_nil_of_chain {known : String → Bool} {s : List Char} {terms : List Term} (hne : terms ≠ [])
    (h : (scanTermWhere known).Chain s terms) : s ≠ [] := by
  rintro rfl
  cases h with
  | nil => exact hne rfl
  | cons hterm _ => exact Nat.not_lt_zero _ (shrinks_scanTermWhere known _ _ _ hterm)

/-- There is no user code in the parser of a term that leaves anything over. -/
theorem sound_termWhere (known : String → Bool) : (termWhere known).Sound := by
  have hcolumn : (columnWhere known).Sound := ⟨trivial, trivial, trivial⟩
  have hpattern : pattern.Sound := ⟨trivial, trivial, trivial, trivial⟩
  have hnegatable : negatable.Sound := ⟨⟨trivial, hpattern⟩, hpattern, trivial⟩
  exact ⟨⟨trivial, hcolumn, hpattern⟩, ⟨hcolumn, hnegatable⟩, hnegatable, trivial⟩

/-- The terms of a query are those of the chain of its terms, of which there is one at least. -/
theorem parse?_queryWhere_iff (known : String → Bool) (diagnostics : Diagnostics)
    (text : List Char) (terms : List Term) :
    (queryWhere known).parse? diagnostics text = some terms ↔
      terms ≠ [] ∧ (scanTermWhere known).Chain text terms :=
  (computes_termWhere known).parse?_iff (shrinks_scanTermWhere known) (sound_termWhere known) true
    "filter" diagnostics text terms

theorem parse?_iff (diagnostics : Diagnostics) (directory : Directory) (text : List Char)
    (terms : List Term) :
    parse? diagnostics directory text = some terms ↔
      terms ≠ [] ∧ (scanTerm directory).Chain text terms := by
  rw [parse?, query_eq]
  exact parse?_queryWhere_iff (isKnown directory) diagnostics text terms

end RowQuery.Grammar
