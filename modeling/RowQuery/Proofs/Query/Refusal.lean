import RowQuery.Proofs.Query.Trimming
import RowQuery.Proofs.Query.UnknownColumn
import RowQuery.Proofs.Query.Validity

/-!
Why queries are refused.

* `Grammar.build?`: the grammar, as it is built from the written patterns of its tokens.
* `Conjunct.pattern`, `error_of_compileWithin`: terms whose columns are known can fail only for a pattern.
* `isPattern_of_literal`, `compiles_of_literal`: words and quotes make patterns, alone and together.
* `error_of_compile`: why there is no filter of a query.
* `compile_taxonomy`: which queries are refused, and with which errors.
-/
namespace RowQuery

/-! ## The grammar and its tokens -/

namespace Grammar

/-- The parsers of the tokens. -/
structure Tokens where
  not : Parser String
  quotedName : Parser String
  name : Parser String
  quote : Parser String
  regex : Parser String
  word : Parser String

/-- The parsers of the known tokens. -/
def Tokens.known : Tokens where
  not := Token.parser Token.notPattern Token.not
  quotedName := Token.bodyParser Token.quotedNamePattern Token.quotedName
  name := Token.bodyParser Token.namePattern Token.name
  quote := Token.bodyParser Token.quotePattern Token.quote
  regex := Token.bodyParser Token.regexPattern Token.regex
  word := Token.parser Token.wordPattern Token.word

/-- The parsers of the tokens, from their written patterns. -/
def Tokens.build? : Except Parser.BuildError Tokens := do
  let not ← Parser.regex? Token.notPattern
  let quotedName ← Parser.capture? Token.quotedNamePattern 1
  let name ← Parser.capture? Token.namePattern 1
  let quote ← Parser.capture? Token.quotePattern 1
  let regex ← Parser.capture? Token.regexPattern 1
  let word ← Parser.regex? Token.wordPattern
  return { not, quotedName, name, quote, regex, word }

/-- The grammar over some tokens. -/
def assemble (directory : Directory) (tokens : Tokens) : Parser (List Term) :=
  let not : Parser String := .described "not" (.trim tokens.not)
  let column : Parser String := .traced <| .described "column" <| .alternation <| .ofList
    [knownColumn directory tokens.quotedName, knownColumn directory tokens.name]
  let pattern : Parser (PatternKind × String) :=
    .traced <| .described "pattern" <| .alternation <| .ofList
      [(Parser.trim tokens.quote).map fun body => (.quote, Token.unescapeQuote body),
       (Parser.trim tokens.regex).map fun body => (.regex, Token.unescapeRegex body),
       (Parser.trim tokens.word).map fun text => (.word, text)]
  let negatable : Parser (Bool × PatternKind × String) := .alternation <| .ofList
    [(Parser.pair not pattern).map fun (_, kind, text) => (true, kind, text),
     pattern.map fun (kind, text) => (false, kind, text)]
  let term : Parser Term := .traced <| .described "term" <| .alternation <| .ofList
    [(Parser.pair not (.pair column pattern)).map
        fun (_, key, kind, text) => { column := some key, kind, text, negate := true },
     (Parser.pair column negatable).map
        fun (key, negate, kind, text) => { column := some key, kind, text, negate },
     negatable.map fun (negate, kind, text) => { column := none, kind, text, negate }]
  .guarded true <| .described "filter" <| .all <| .oneOrMore term

/-- The grammar, if the patterns of its tokens are accepted. -/
def build? (directory : Directory) : Except Parser.BuildError (Parser (List Term)) := do
  let tokens ← Tokens.build?
  return assemble directory tokens

end Grammar

namespace Parser

variable {pattern : String} {known : Regex.Known}

theorem compile?_of_known (hp : known.pattern = anchored pattern) (hw : known.node.weight < sizeLimit) :
    compile? pattern = .ok known.regex := by
  rw [compile?, ← hp, known.compile_eq hw]

theorem regex?_of_known (hp : known.pattern = anchored pattern) (hw : known.node.weight < sizeLimit) :
    regex? pattern = .ok (Token.parser pattern known) := by
  rw [regex?, compile?_of_known hp hw]
  rfl

theorem capture?_of_known (hp : known.pattern = anchored pattern) (hw : known.node.weight < sizeLimit)
    (hg : 1 < known.regex.groups) : capture? pattern 1 = .ok (Token.bodyParser pattern known) := by
  rw [capture?, compile?_of_known hp hw]
  exact if_neg (Nat.not_le_of_lt hg)

end Parser

/-- The patterns of the tokens are accepted. -/
theorem Grammar.Tokens.build?_eq : Tokens.build? = .ok .known := by
  have hnot : Parser.regex? Token.notPattern = .ok Tokens.known.not :=
    Parser.regex?_of_known rfl (by decide +kernel)
  have hquotedName : Parser.capture? Token.quotedNamePattern 1 = .ok Tokens.known.quotedName :=
    Parser.capture?_of_known rfl (by decide +kernel) (by decide +kernel)
  have hname : Parser.capture? Token.namePattern 1 = .ok Tokens.known.name :=
    Parser.capture?_of_known rfl (by decide +kernel) (by decide +kernel)
  have hquote : Parser.capture? Token.quotePattern 1 = .ok Tokens.known.quote :=
    Parser.capture?_of_known rfl (by decide +kernel) (by decide +kernel)
  have hregex : Parser.capture? Token.regexPattern 1 = .ok Tokens.known.regex :=
    Parser.capture?_of_known rfl (by decide +kernel) (by decide +kernel)
  have hword : Parser.regex? Token.wordPattern = .ok Tokens.known.word :=
    Parser.regex?_of_known rfl (by decide +kernel)
  rw [build?, hnot, hquotedName, hname, hquote, hregex, hword]
  rfl

/-- The grammar can be built, and is that of queries. -/
theorem Grammar.build?_eq (directory : Directory) : build? directory = .ok (query directory) := by
  rw [build?, Tokens.build?_eq]
  rfl

/-- What is wrong with a query that does not follow the grammar: it as a whole, or a name in it. -/
def QueryError.IsSyntactic : QueryError → Bool
  | .malformed _ | .unknownColumn _ _ => true
  | .emptyExpression | .invalidPattern _ _ => false

namespace Query

variable {diagnostics : Diagnostics} {directory : Directory} {limit : Regex.Limit} {query : String}
  {term : Term} {terms : List Term} {error : QueryError}

/-! ## Patterns -/

/-- The pattern of a conjunct. -/
def Conjunct.pattern : Conjunct → String
  | .single term => derive term
  | .ordered terms => deriveAll terms

/-- A pattern that stands for an expression can only be too big. -/
theorem fault_of_compile {pattern : String} {fault : Regex.Fault}
    (h : Regex.compile limit pattern = .error fault) (hp : IsPattern pattern) : fault = .tooBig := by
  obtain ⟨node, hnode⟩ := Option.isSome_iff_exists.mp hp
  simp only [Regex.compile, hnode] at h
  split at h
  · cases h
  · cases h
    rfl

theorem error_of_compilePattern {pattern : String} (h : compilePattern limit pattern = .error error) :
    ∃ fault, error = .invalidPattern pattern fault ∧ Regex.compile limit pattern = .error fault := by
  unfold compilePattern at h
  split at h
  · cases h
  · next fault hfault =>
    cases h
    exact ⟨fault, rfl, hfault⟩

/-- The clause of a conjunct can fail only for its pattern, if the columns are known. -/
theorem error_of_conjunct {c : Conjunct} (hc : ∀ term, c = .single term → Resolves directory term)
    (h : c.compile limit directory = .error error) :
    ∃ fault, error = .invalidPattern c.pattern fault ∧
      Regex.compile limit c.pattern = .error fault := by
  cases c with
  | single term =>
    obtain ⟨target, htarget⟩ := hc term rfl
    simp only [Conjunct.compile, compileTerm, bind, Except.bind, htarget] at h
    split at h
    · next hpattern =>
      cases h
      exact error_of_compilePattern hpattern
    · cases h
  | ordered terms =>
    simp only [Conjunct.compile, compileOrdered, bind, Except.bind] at h
    split at h
    · next hpattern =>
      cases h
      exact error_of_compilePattern hpattern
    · cases h

/-- Where one of some results fails, one of them fails in the same way. -/
theorem exists_of_mapM_eq_error {ε α β : Type} {f : α → Except ε β} {l : List α} {e : ε}
    (h : l.mapM f = .error e) : ∃ a ∈ l, f a = .error e := by
  induction l with
  | nil => cases h
  | cons a l ih =>
    rw [List.mapM_cons] at h
    cases ha : f a with
    | error e' =>
      rw [ha] at h
      cases h
      exact ⟨a, List.mem_cons_self, ha⟩
    | ok b =>
      cases hl : l.mapM f with
      | error e' =>
        simp only [ha, hl, bind, Except.bind] at h
        cases h
        obtain ⟨a', hmem, ha'⟩ := ih hl
        exact ⟨a', List.mem_cons_of_mem _ hmem, ha'⟩
      | ok bs =>
        simp only [ha, hl, bind, Except.bind] at h
        cases h

theorem mem_of_single_mem_conjuncts (h : .single term ∈ conjuncts terms) : term ∈ terms := by
  rcases mem_conjuncts.mp h with ⟨t, ht, -, he⟩ | ⟨-, he⟩
  · cases he
    exact ht
  · cases he

/-- Terms can fail only for the pattern of one of their conjuncts, if there are any and their columns are
known. -/
theorem error_of_compileWithin (hne : terms ≠ []) (hknown : ∀ term ∈ terms, Resolves directory term)
    (h : compileWithin limit directory terms = .error error) :
    ∃ c ∈ conjuncts terms, ∃ fault, error = .invalidPattern c.pattern fault ∧
      Regex.compile limit c.pattern = .error fault := by
  have hempty : terms.isEmpty = false := by simpa using hne
  rw [compileWithin, hempty, if_neg (by simp), compileFrom_eq_mapM] at h
  obtain ⟨c, hc, hcompile⟩ := exists_of_mapM_eq_error h
  refine ⟨c, hc, error_of_conjunct (fun term hterm => ?_) hcompile⟩
  subst hterm
  exact hknown term (mem_of_single_mem_conjuncts hc)

/-! ## Words and quotes -/

/-- The pattern of a word or a quote stands for an expression. -/
theorem isPattern_derive_of_literal (hk : term.kind ≠ .regex) : IsPattern (derive term) := by
  rw [IsPattern, derive_of_literal hk]
  split
  · simpa using (Regex.flat_whole term.text.toList).1
  · rw [String.toList_ofList]
    exact (Regex.flat_escape term.text.toList).1

/-- The patterns of words and quotes can stand in one pattern. -/
theorem compatible_of_literal (hk : ∀ term ∈ terms, term.kind ≠ .regex)
    (ho : ∀ term ∈ terms, term.isOrdered = true) : Compatible (patterns terms) := by
  have hescape : ∀ p ∈ patterns terms, ∃ s, p = Regex.escape s := by
    intro p hp
    obtain ⟨t, ht, rfl⟩ := List.mem_map.mp hp
    exact ⟨t.text.toList, by rw [derive_of_isOrdered (hk t ht) (ho t ht), String.toList_ofList]⟩
  refine ⟨List.pairwise_of_forall_mem_list fun a ha b _ => ?_, fun p hp => ?_⟩
  · obtain ⟨p, hp, rfl⟩ := List.mem_map.mp ha
    obtain ⟨s, rfl⟩ := hescape p hp
    rw [(Regex.flat_escape s).2.1]
    exact List.disjoint_nil_left b
  · obtain ⟨s, rfl⟩ := hescape p hp
    exact (Nat.add_le_add_right (Regex.flat_escape s).2.2 2).trans (by decide)

/-- The conjuncts of words and quotes have patterns that stand for expressions. -/
theorem isPattern_of_literal (hk : ∀ term ∈ terms, term.kind ≠ .regex) {c : Conjunct}
    (hc : c ∈ conjuncts terms) : IsPattern c.pattern := by
  rcases mem_conjuncts.mp hc with ⟨t, ht, -, rfl⟩ | ⟨hne, rfl⟩
  · exact isPattern_derive_of_literal (hk t ht)
  · have hko : ∀ t ∈ terms.filter Term.isOrdered, t.kind ≠ .regex := fun t ht =>
      hk t (List.mem_of_mem_filter ht)
    have ho : ∀ t ∈ terms.filter Term.isOrdered, t.isOrdered = true := fun t ht =>
      (List.mem_filter.mp ht).2
    refine (isPattern_deriveAll_iff hne ho fun _ t ht hr => absurd hr (hko t ht)).mpr
      ⟨fun t ht => isPattern_derive_of_literal (hko t ht), fun _ => compatible_of_literal hko ho⟩

theorem Conjunct.compiles_iff {c : Conjunct} : c.Compiles directory ↔
    IsPattern c.pattern ∧ ∀ term, c = .single term → Resolves directory term := by
  cases c with
  | single term => simp [compiles_single_iff, Conjunct.pattern]
  | ordered terms => simp [compiles_ordered_iff, Conjunct.pattern]

/-- Words and quotes with known columns compile, within some limit of size. -/
theorem compiles_of_literal (hne : terms ≠ []) (hknown : ∀ term ∈ terms, Resolves directory term)
    (hk : ∀ term ∈ terms, term.kind ≠ .regex) : Compiles directory terms := by
  refine compiles_iff_conjuncts.mpr ⟨hne, fun c hc => Conjunct.compiles_iff.mpr
    ⟨isPattern_of_literal hk hc, fun term hterm => ?_⟩⟩
  subst hterm
  exact hknown term (mem_of_single_mem_conjuncts hc)

/-! ## Queries -/

/-- Each column of the terms of a query is known. -/
theorem resolves_of_parse? {text : List Char} (h : Grammar.parse? diagnostics directory text = some terms) :
    terms ≠ [] ∧ ∀ term ∈ terms, Resolves directory term := by
  obtain ⟨hne, hchain⟩ := (Grammar.parse?_iff diagnostics directory text terms).mp h
  refine ⟨hne, fun term hterm => ?_⟩
  have hknown := (Grammar.isTerm_of_chain hchain term hterm).known
  rw [Resolves, target]
  cases hcolumn : term.column with
  | none => exact ⟨_, rfl⟩
  | some key =>
    obtain ⟨column, hresolve⟩ := Option.isSome_iff_exists.mp (hknown key hcolumn)
    simp only [hresolve]
    exact ⟨_, rfl⟩

/-- A query of white space alone keeps every row, and no other query makes this filter. -/
theorem compile_eq_acceptAll_iff :
    compile diagnostics directory query = .ok .acceptAll ↔ Text.Blank query.toList := by
  rw [← Text.trim_eq_nil_iff]
  constructor
  · intro h
    by_contra hne
    cases hparse : Grammar.parse? diagnostics directory (Text.trim query.toList) with
    | none => rw [(error_of_parse?_eq_none hne hparse).2] at h; cases h
    | some terms =>
      rw [Grammar.parse?_trim] at hparse
      rw [compile_of_parse? hparse] at h
      cases hc : compileTerms directory terms <;> simp [hc, Except.map] at h
  · intro h
    rw [compile, h]
    rfl

/-- The error of a query, by what the grammar says of it. -/
theorem error_of_compile (h : compile diagnostics directory query = .error error) :
    (Grammar.parse? diagnostics directory (Text.trim query.toList) = none ∧
      ¬Text.Blank query.toList ∧ error = explain directory (Text.trim query.toList)) ∨
    ∃ terms, Grammar.parse? diagnostics directory (Text.trim query.toList) = some terms ∧
      ∃ c ∈ conjuncts terms, ∃ fault, error = .invalidPattern c.pattern fault ∧
        Regex.compile sizeLimit c.pattern = .error fault := by
  cases hparse : Grammar.parse? diagnostics directory (Text.trim query.toList) with
  | none =>
    have hblank : ¬Text.Blank query.toList := fun hblank => by
      cases (compile_eq_acceptAll_iff.mpr hblank).symm.trans h
    have hne : Text.trim query.toList ≠ [] := fun hnil => hblank (Text.trim_eq_nil_iff.mp hnil)
    rw [(error_of_parse?_eq_none hne hparse).2] at h
    cases h
    exact .inl ⟨rfl, hblank, rfl⟩
  | some terms =>
    refine .inr ⟨terms, rfl, ?_⟩
    obtain ⟨hne, hknown⟩ := resolves_of_parse? hparse
    rw [Grammar.parse?_trim] at hparse
    rw [compile_of_parse? hparse] at h
    cases hc : compileTerms directory terms with
    | ok clauses =>
      rw [hc] at h
      cases h
    | error e =>
      rw [hc] at h
      cases h
      exact error_of_compileWithin hne hknown hc

/-- What is wrong with a query that does not follow the grammar. -/
theorem isSyntactic_explain (directory : Directory) (text : List Char) :
    (explain directory text).IsSyntactic = true ∧
      ∀ name suggestion, explain directory text = .unknownColumn name suggestion →
        directory.resolve? name = none := by
  rcases explain_or directory text with h | ⟨name, hnone, suggestion, h, -⟩
  · rw [h]
    exact ⟨rfl, fun _ _ he => by cases he⟩
  · rw [h]
    refine ⟨rfl, fun name' suggestion' he => ?_⟩
    cases he
    exact hnone

/-- A query is refused for its form just if the grammar refuses it, and it is not blank. -/
theorem exists_isSyntactic_iff :
    (∃ error, compile diagnostics directory query = .error error ∧ error.IsSyntactic = true) ↔
      ¬Text.Blank query.toList ∧
        Grammar.parse? diagnostics directory (Text.trim query.toList) = none := by
  constructor
  · rintro ⟨error, h, hsyntactic⟩
    rcases error_of_compile h with ⟨hparse, hblank, -⟩ | ⟨_, -, _, -, _, rfl, -⟩
    · exact ⟨hblank, hparse⟩
    · cases hsyntactic
  · rintro ⟨hblank, hparse⟩
    have hne : Text.trim query.toList ≠ [] := fun hnil => hblank (Text.trim_eq_nil_iff.mp hnil)
    exact ⟨_, (error_of_parse?_eq_none hne hparse).2, (isSyntactic_explain directory _).1⟩

/-- A query that the grammar accepts can be refused only for the pattern of a conjunct. -/
theorem error_of_accepted
    (hparse : Grammar.parse? diagnostics directory (Text.trim query.toList) = some terms)
    (h : compile diagnostics directory query = .error error) :
    ∃ c ∈ conjuncts terms, ∃ fault, error = .invalidPattern c.pattern fault ∧
      Regex.compile sizeLimit c.pattern = .error fault := by
  rcases error_of_compile h with ⟨hnone, -, -⟩ | ⟨terms', hsome, hc⟩
  · cases hnone.symm.trans hparse
  · cases hsome.symm.trans hparse
    exact hc

/-- Which queries are refused, and with which errors. A blank query keeps every row, the grammar can always be
built, and no query counts as empty. A query that the grammar refuses is malformed or has a name that is not
known. A query that it accepts has terms, all with known columns, so it can be refused only for a pattern; if
it has words and quotes alone, only for the size of one. -/
theorem compile_taxonomy (diagnostics : Diagnostics) (directory : Directory) (query : String) :
    Grammar.build? directory = .ok (Grammar.query directory) ∧
    (compile diagnostics directory query = .ok .acceptAll ↔ Text.Blank query.toList) ∧
    compile diagnostics directory query ≠ .error .emptyExpression ∧
    ((∃ error, compile diagnostics directory query = .error error ∧ error.IsSyntactic = true) ↔
      ¬Text.Blank query.toList ∧
        Grammar.parse? diagnostics directory (Text.trim query.toList) = none) ∧
    (∀ name suggestion, compile diagnostics directory query = .error (.unknownColumn name suggestion) →
      directory.resolve? name = none) ∧
    ∀ terms, Grammar.parse? diagnostics directory (Text.trim query.toList) = some terms →
      terms ≠ [] ∧ (∀ term ∈ terms, Resolves directory term) ∧
      (∀ error, compile diagnostics directory query = .error error →
        ∃ pattern fault, error = .invalidPattern pattern fault) ∧
      ((∀ term ∈ terms, term.kind ≠ .regex) → Compiles directory terms ∧
        ∀ error, compile diagnostics directory query = .error error →
          ∃ pattern, error = .invalidPattern pattern .tooBig) := by
  refine ⟨Grammar.build?_eq directory, compile_eq_acceptAll_iff, fun h => ?_, exists_isSyntactic_iff,
    fun name suggestion h => ?_, fun terms hparse => ?_⟩
  · rcases error_of_compile h with ⟨-, -, he⟩ | ⟨_, -, _, -, _, he, -⟩
    · have hsyntactic := (isSyntactic_explain directory (Text.trim query.toList)).1
      rw [← he] at hsyntactic
      cases hsyntactic
    · cases he
  · rcases error_of_compile h with ⟨-, -, he⟩ | ⟨_, -, _, -, _, he, -⟩
    · exact (isSyntactic_explain directory _).2 name suggestion he.symm
    · cases he
  · obtain ⟨hne, hknown⟩ := resolves_of_parse? hparse
    refine ⟨hne, hknown, fun error h => ?_, fun hk => ⟨compiles_of_literal hne hknown hk, fun error h => ?_⟩⟩
    · obtain ⟨c, -, fault, rfl, -⟩ := error_of_accepted hparse h
      exact ⟨_, _, rfl⟩
    · obtain ⟨c, hc, fault, rfl, hfault⟩ := error_of_accepted hparse h
      obtain rfl := fault_of_compile hfault (isPattern_of_literal hk hc)
      exact ⟨_, rfl⟩

end Query
end RowQuery
