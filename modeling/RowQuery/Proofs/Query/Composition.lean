import RowQuery.Proofs.Query.Validity

/-!
What the clauses of a query are made of.

* `Clause.MadeOf`: a clause looks for the patterns of its terms, where they ask for them.
* `map_terms_of_compileWithin`: the terms of the clauses are those of the conjuncts.
* `clauses_of_terms`: each term is behind one clause, in its place; the ordered ones share theirs.
-/
namespace RowQuery

/-- What a clause has from its terms: there are some, each is negated just if the clause is and asks for what the
clause looks at, and the pattern is that of the only term, or those of all in their order, each in a group and with a
character or more between one and the next. -/
structure Clause.MadeOf (directory : Directory) (clause : Clause) : Prop where
  ne_nil : clause.terms ≠ []
  negate : ∀ t ∈ clause.terms, clause.negate = t.negate
  row : ∀ t ∈ clause.terms, t.column = none → clause.target = .row
  column : ∀ t ∈ clause.terms, ∀ key, t.column = some key →
    ∃ column, directory.resolve? key = some column ∧ clause.target = .column column.name column.offset
  alone : ∀ t, clause.terms = [t] → clause.regex.source = Query.derive t
  joined : 2 ≤ clause.terms.length → clause.regex.source =
    String.intercalate ".+" (clause.terms.map fun t => "(?:" ++ Query.derive t ++ ")")

namespace Query

variable {limit : Regex.Limit} {directory : Directory} {term : Term} {terms : List Term} {clause : Clause}
  {clauses : List Clause}

/-! ## Single clauses -/

theorem source_of_compilePattern {pattern : String} {regex : Regex}
    (h : compilePattern limit pattern = .ok regex) : regex.source = pattern := by
  obtain ⟨node, -, -, rfl⟩ := compilePattern_eq_ok_iff.mp h
  rfl

theorem deriveAll_of_two_le (h : 2 ≤ terms.length) :
    deriveAll terms = String.intercalate ".+" (terms.map fun t => "(?:" ++ derive t ++ ")") := by
  unfold deriveAll
  split
  · simp at h
  · rfl

theorem madeOf_of_compileTerm (h : compileTerm limit directory term = .ok clause) :
    clause.MadeOf directory := by
  obtain ⟨regex, t, hregex, ht, rfl⟩ := compileTerm_eq_ok_iff.mp h
  obtain ⟨hrow, hcolumn⟩ := target_eq_ok_iff.mp ht
  have hterm : ∀ u ∈ [term], u = term := fun u hu => List.mem_singleton.mp hu
  constructor
  case ne_nil => exact List.cons_ne_nil _ _
  case negate =>
    intro u hu
    rw [hterm u hu]
  case row =>
    intro u hu
    rw [hterm u hu]
    exact hrow
  case column =>
    intro u hu
    rw [hterm u hu]
    exact hcolumn
  case alone =>
    intro u hu
    obtain rfl : term = u := List.singleton_inj.mp hu
    exact source_of_compilePattern hregex
  case joined => exact fun hlength => absurd hlength (by simp)

theorem madeOf_of_compileOrdered (hne : terms ≠ []) (hordered : ∀ t ∈ terms, t.isOrdered = true)
    (h : compileOrdered limit terms = .ok clause) : clause.MadeOf directory := by
  obtain ⟨regex, hregex, rfl⟩ := compileOrdered_eq_ok_iff.mp h
  have hsource := source_of_compilePattern hregex
  have hbare : ∀ t ∈ terms, t.column = none ∧ t.negate = false := fun t ht =>
    Term.isOrdered_iff.mp (hordered t ht)
  constructor
  case ne_nil => exact hne
  case negate => exact fun t ht => (hbare t ht).2.symm
  case row => exact fun _ _ _ => rfl
  case column =>
    intro t ht key hkey
    rw [(hbare t ht).1] at hkey
    cases hkey
  case alone =>
    rintro t rfl
    exact hsource
  case joined => exact fun hlength => hsource.trans (deriveAll_of_two_le hlength)

/-! ## All clauses -/

theorem Conjunct.terms_of_compile {c : Conjunct} (h : c.compile limit directory = .ok clause) :
    clause.terms = c.terms := by
  cases c with
  | single term => exact terms_of_compileTerm h
  | ordered terms => exact terms_of_compileOrdered h

/-- The clauses stem from the conjuncts, one from each. -/
theorem map_terms_of_compileWithin (h : compileWithin limit directory terms = .ok clauses) :
    clauses.map Clause.terms = (conjuncts terms).map Conjunct.terms := by
  have hterms : List.Forall₂ Eq (clauses.map Clause.terms) ((conjuncts terms).map Conjunct.terms) := by
    rw [List.forall₂_map_left_iff, List.forall₂_map_right_iff]
    exact (compileWithin_eq_ok_iff.mp h).2.flip.imp fun clause c hc => c.terms_of_compile hc
  exact List.forall₂_eq_eq_eq ▸ hterms

/-- Each term is behind one clause, whatever the limit of size. Without ordered terms the terms behind the clauses are
the terms one by one; else all ordered terms, in their order, stand in the place of the first of them, and every other
term stays in its place alone. So no term is lost or used twice. Every clause is made of its terms, and if these are
several, then they are all the ordered ones. -/
theorem clauses_of_terms (h : compileWithin limit directory terms = .ok clauses) :
    ((∀ t ∈ terms, t.isOrdered = false) → clauses.map Clause.terms = terms.map fun t => [t]) ∧
    (∀ front first rest, terms = front ++ first :: rest → (∀ t ∈ front, t.isOrdered = false) →
      first.isOrdered = true →
      clauses.map Clause.terms = (front.map fun t => [t]) ++ terms.filter Term.isOrdered ::
        (rest.filter fun t => !t.isOrdered).map fun t => [t]) ∧
    (clauses.flatMap Clause.terms).Perm terms ∧
    ∀ clause ∈ clauses, clause.MadeOf directory ∧
      (2 ≤ clause.terms.length → clause.terms = terms.filter Term.isOrdered) := by
  have hmap := map_terms_of_compileWithin h
  refine ⟨fun hunordered => ?_, ?_, ?_, fun clause hclause => ?_⟩
  · rw [hmap, conjuncts_of_unordered hunordered, List.map_map]
    rfl
  · rintro front first rest rfl hfront hfirst
    rw [hmap, conjuncts_of_first hfront hfirst]
    simp [Conjunct.terms, Function.comp_def]
  · rw [List.flatMap_def, hmap, ← List.flatMap_def]
    exact perm_flatMap_conjuncts terms
  · obtain ⟨c, hc, hcompile⟩ := exists_conjunct h hclause
    rcases mem_conjuncts.mp hc with ⟨t, -, -, rfl⟩ | ⟨hne, rfl⟩
    · refine ⟨madeOf_of_compileTerm hcompile, fun hlength => ?_⟩
      rw [terms_of_compileTerm hcompile] at hlength
      simp at hlength
    · exact ⟨madeOf_of_compileOrdered hne (fun t ht => (List.mem_filter.mp ht).2) hcompile,
        fun _ => terms_of_compileOrdered hcompile⟩

/-- In `:age "3" foo NOT x /b+/` the word and the regular expression are apart. -/
theorem clauses_of_scattered_terms : ∃ directory clauses,
    Directory.ofNames ["name", "age"] = .ok directory ∧
    compileTerms directory [⟨some "age", .quote, "3", false⟩, ⟨none, .word, "foo", false⟩,
      ⟨none, .word, "x", true⟩, ⟨none, .regex, "b+", false⟩] = .ok clauses ∧
    clauses.map Clause.terms = [[⟨some "age", .quote, "3", false⟩],
      [⟨none, .word, "foo", false⟩, ⟨none, .regex, "b+", false⟩], [⟨none, .word, "x", true⟩]] ∧
    ∀ clause ∈ clauses, clause.MadeOf directory := by
  let directory : Directory := ⟨[⟨"name", none, some 1, 0, 1⟩, ⟨"age", none, some 2, 1, 2⟩]⟩
  let age : Term := ⟨some "age", .quote, "3", false⟩
  let foo : Term := ⟨none, .word, "foo", false⟩
  let others : List Term := [⟨none, .word, "x", true⟩, ⟨none, .regex, "b+", false⟩]
  have hok : (compileTerms directory ([age] ++ foo :: others)).isOk = true := by decide +kernel
  obtain ⟨clauses, h⟩ := exists_of_isOk hok
  obtain ⟨-, hfirst, -, hmade⟩ := clauses_of_terms h
  exact ⟨directory, clauses, rfl, h, hfirst [age] foo others rfl (by decide) rfl,
    fun clause hclause => (hmade clause hclause).1⟩

end Query
end RowQuery
