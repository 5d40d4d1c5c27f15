import RowQuery.Proofs.Directory
import RowQuery.Proofs.Query.Conjunct
import RowQuery.Proofs.Regex.Literal

/-!
What filters of words and quotes accept.

* `target_eq_ok_iff`: what the clause of a term looks at.
* `derive_of_literal`, `deriveAll_eq_joined`: the patterns of such terms are made of escaped texts.
* `Term.StandsIn`: what a term asks of the text of its column.
* `accepts_iff_of_literal`: which rows such a filter accepts.
-/
namespace RowQuery

/-- The terms to be looked for in the text of a column: a word stands in it, a quote is all of it. -/
structure Term.StandsIn (term : Term) (text : List Char) : Prop where
  word : term.kind = .word → term.text.toList <:+: text
  quote : term.kind = .quote → text = term.text.toList

namespace Query

variable {limit : Regex.Limit} {directory : Directory} {term : Term} {clause : Clause}

/-! ## Clauses -/

theorem regex_of_compilePattern {pattern : String} {regex : Regex}
    (h : compilePattern limit pattern = .ok regex) : Regex.compile limit pattern = .ok regex := by
  unfold compilePattern at h
  split at h
  · next hregex =>
    cases h
    exact hregex
  · cases h

/-- What the clause of a term is made of. -/
theorem of_compileTerm (h : compileTerm limit directory term = .ok clause) :
    Regex.compile limit (derive term) = .ok clause.regex ∧
      target directory term = .ok clause.target ∧ clause.negate = term.negate := by
  rw [compileTerm, bind_eq_ok_iff] at h
  obtain ⟨regex, hregex, h⟩ := h
  obtain ⟨target, htarget, h⟩ := bind_eq_ok_iff.mp h
  cases h
  exact ⟨regex_of_compilePattern hregex, htarget, rfl⟩

theorem terms_of_compileTerm (h : compileTerm limit directory term = .ok clause) : clause.terms = [term] := by
  rw [compileTerm, bind_eq_ok_iff] at h
  obtain ⟨regex, -, h⟩ := h
  obtain ⟨target, -, h⟩ := bind_eq_ok_iff.mp h
  cases h
  rfl

/-- What a term asks for is looked at: the whole row, or the column that its key stands for. -/
theorem target_eq_ok_iff {t : Target} :
    target directory term = .ok t ↔
      (term.column = none → t = .row) ∧
        ∀ key, term.column = some key →
          ∃ column, directory.resolve? key = some column ∧ t = .column column.name column.offset := by
  unfold target
  cases term.column with
  | none => simp [eq_comm]
  | some key =>
    cases hresolve : directory.resolve? key with
    | none => simp [hresolve]
    | some column => simp [hresolve, eq_comm]

/-- What the clause of the terms in their order is made of. -/
theorem of_compileOrdered {terms : List Term} (h : compileOrdered limit terms = .ok clause) :
    Regex.compile limit (deriveAll terms) = .ok clause.regex ∧ clause.target = .row ∧
      clause.negate = false := by
  rw [compileOrdered, bind_eq_ok_iff] at h
  obtain ⟨regex, hregex, h⟩ := h
  cases h
  exact ⟨regex_of_compilePattern hregex, rfl, rfl⟩

theorem terms_of_compileOrdered {terms : List Term} (h : compileOrdered limit terms = .ok clause) :
    clause.terms = terms := by
  rw [compileOrdered, bind_eq_ok_iff] at h
  obtain ⟨regex, -, h⟩ := h
  cases h
  rfl

theorem holds_iff (clause : Clause) (data : RowData) :
    clause.holds data = true ↔
      (clause.regex.isMatch (clause.target.extract data).toList = true ↔
        clause.negate = false) := by
  rw [Clause.holds]
  cases clause.regex.isMatch (clause.target.extract data).toList <;> cases clause.negate <;> simp

/-! ## Patterns -/

theorem derive_of_literal (hk : term.kind ≠ .regex) :
    derive term =
      if term.kind = .quote ∧ term.column ≠ none then
        "^" ++ String.ofList (Regex.escape term.text.toList) ++ "$"
      else String.ofList (Regex.escape term.text.toList) := by
  obtain ⟨column, kind, text, negate⟩ := term
  cases kind with
  | word => simp [derive]
  | quote => cases column <;> simp [derive, Term.isBare]
  | regex => exact absurd rfl hk

/-- Terms in their order are joined with gaps, if they are not alone. -/
theorem deriveAll_eq_joined {terms : List Term} (h : ∀ t, terms ≠ [t]) :
    deriveAll terms = String.ofList (Regex.joined (terms.map fun t => (derive t).toList)) := by
  unfold deriveAll
  split
  · exact absurd rfl (h _)
  · rw [← String.toList_inj, String.toList_intercalate, String.toList_ofList, String.toList_ofList,
      Regex.joined, List.map_map, List.map_map]
    congr 1
    refine List.map_congr_left fun t _ => ?_
    simp [Regex.grouped]

theorem derive_of_isOrdered (hk : term.kind ≠ .regex) (ho : term.isOrdered = true) :
    derive term = String.ofList (Regex.escape term.text.toList) := by
  rw [derive_of_literal hk, if_neg]
  rintro ⟨-, hc⟩
  simp [Term.isOrdered, Term.isBare, hc] at ho

/-- The terms in their order ask for their texts in this order. -/
theorem isMatch_deriveAll_iff {terms : List Term} (hne : terms ≠ [])
    (hk : ∀ t ∈ terms, t.kind ≠ .regex) (ho : ∀ t ∈ terms, t.isOrdered = true) {regex : Regex}
    (h : Regex.compile limit (deriveAll terms) = .ok regex) (text : List Char) :
    regex.isMatch text = true ↔ Regex.InOrder (terms.map (·.text.toList)) text := by
  by_cases hone : ∃ t, terms = [t]
  · obtain ⟨t, rfl⟩ := hone
    rw [deriveAll, derive_of_isOrdered (hk t (by simp)) (ho t (by simp))] at h
    rw [Regex.isMatch_escape_iff h, List.map_singleton, Regex.InOrder]
    constructor
    · intro hs
      exact ⟨[], rfl, by simp, hs⟩
    · rintro ⟨gaps, hlen, -, hs⟩
      obtain rfl : gaps = [] := List.length_eq_zero_iff.mp (by simpa using hlen)
      exact hs
  · have hescape : terms.map (fun t => (derive t).toList) =
        (terms.map (·.text.toList)).map Regex.escape := by
      rw [List.map_map]
      refine List.map_congr_left fun t ht => ?_
      rw [derive_of_isOrdered (hk t ht) (ho t ht), String.toList_ofList]
      rfl
    rw [deriveAll_eq_joined fun t ht => hone ⟨t, ht⟩, hescape] at h
    exact Regex.isMatch_joined_escape_iff (by simpa using hne) h text

/-! ## Rows -/

/-- The clause of a negated term about the whole row keeps the rows without its text. -/
theorem holds_iff_of_bare (hk : term.kind ≠ .regex) (hb : term.column = none)
    (h : compileTerm limit directory term = .ok clause) (rows : Rows) (row : Nat) :
    clause.holds (.ofRows directory rows row) = true ↔
      (term.text.toList <:+: rows.rowText directory row ↔ term.negate = false) := by
  obtain ⟨hregex, htarget, hnegate⟩ := of_compileTerm h
  have hrow : clause.target = .row := (target_eq_ok_iff.mp htarget).1 hb
  rw [derive_of_literal hk, if_neg (by simp [hb])] at hregex
  rw [holds_iff, hnegate, Regex.isMatch_escape_iff hregex, hrow, Target.extract,
    RowData.toList_wholeRow]

/-- The clause of a term about a column looks at the cell of that column. -/
theorem holds_iff_of_column (hn : directory.Numbered) (hk : term.kind ≠ .regex)
    (hb : term.column ≠ none) (h : compileTerm limit directory term = .ok clause) (rows : Rows)
    (row : Nat) :
    ∃ key column, term.column = some key ∧ directory.resolve? key = some column ∧
      (clause.holds (.ofRows directory rows row) = true ↔
        (term.StandsIn (rows.cellText row column) ↔ term.negate = false)) := by
  obtain ⟨hregex, htarget, hnegate⟩ := of_compileTerm h
  obtain ⟨key, hkey⟩ := Option.ne_none_iff_exists'.mp hb
  obtain ⟨column, hcolumn, hlook⟩ := (target_eq_ok_iff.mp htarget).2 key hkey
  refine ⟨key, column, hkey, hcolumn, ?_⟩
  have hextract : (clause.target.extract (.ofRows directory rows row)).toList =
      rows.cellText row column := by
    rw [hlook, Target.extract, RowData.get?_offset hn (Directory.mem_of_resolve? hcolumn)]
    simp
  rw [holds_iff, hnegate, hextract]
  rw [derive_of_literal hk] at hregex
  cases hkind : term.kind with
  | word =>
    rw [if_neg (by simp [hkind])] at hregex
    rw [Regex.isMatch_escape_iff hregex]
    have hword : term.StandsIn (rows.cellText row column) ↔
        term.text.toList <:+: rows.cellText row column :=
      ⟨fun hs => hs.word hkind, fun hs => ⟨fun _ => hs, fun hq => by simp [hkind] at hq⟩⟩
    rw [hword]
  | quote =>
    rw [if_pos ⟨hkind, hb⟩] at hregex
    rw [Regex.isMatch_whole_iff hregex]
    have hquote : term.StandsIn (rows.cellText row column) ↔
        rows.cellText row column = term.text.toList :=
      ⟨fun hs => hs.quote hkind, fun hs => ⟨fun hw => by simp [hkind] at hw, fun _ => hs⟩⟩
    rw [hquote]
  | regex => exact absurd hkind hk

/-- The clause of the terms in their order keeps the rows with their texts in this order. -/
theorem holds_iff_of_ordered {terms : List Term} (hne : terms ≠ [])
    (hk : ∀ t ∈ terms, t.kind ≠ .regex) (ho : ∀ t ∈ terms, t.isOrdered = true)
    (h : compileOrdered limit terms = .ok clause) (rows : Rows) (row : Nat) :
    clause.holds (.ofRows directory rows row) = true ↔
      Regex.InOrder (terms.map (·.text.toList)) (rows.rowText directory row) := by
  obtain ⟨hregex, htarget, hnegate⟩ := of_compileOrdered h
  rw [holds_iff, hnegate, htarget, Target.extract, RowData.toList_wholeRow,
    isMatch_deriveAll_iff hne hk ho hregex]
  simp

/-- A filter of words and quotes accepts a row if the text of each column is as the terms about the
column ask, no text of a negated term about the row stands in the text of the row, and the texts of
the other terms about the row stand in it in their order. -/
theorem accepts_iff_of_literal {declarations : List Declaration} {terms : List Term}
    {clauses : List Clause} (hd : Directory.build declarations = .ok directory)
    (hk : ∀ t ∈ terms, t.kind ≠ .regex) (hc : compileTerms directory terms = .ok clauses)
    (rows : Rows) (row : Nat) :
    (Filter.allOf clauses).accepts (.ofRows directory rows row) = true ↔
      (∀ t ∈ terms, ∀ key, t.column = some key →
        ∃ column, directory.resolve? key = some column ∧
          (t.StandsIn (rows.cellText row column) ↔ t.negate = false)) ∧
      (∀ t ∈ terms, t.column = none → t.negate = true →
        ¬ t.text.toList <:+: rows.rowText directory row) ∧
      (terms.filter Term.isOrdered ≠ [] →
        Regex.InOrder ((terms.filter Term.isOrdered).map (·.text.toList))
          (rows.rowText directory row)) := by
  have hn : directory.Numbered := Directory.numbered_of_build hd
  have hko : ∀ t ∈ terms.filter Term.isOrdered, t.kind ≠ .regex := fun t ht =>
    hk t (List.mem_of_mem_filter ht)
  have ho : ∀ t ∈ terms.filter Term.isOrdered, t.isOrdered = true := fun t ht =>
    (List.mem_filter.mp ht).2
  -- Each part of the right side is what the clause of one conjunct asks of the row.
  rw [accepts_iff hc]
  constructor
  · intro h
    refine ⟨fun t ht key hkey => ?_, fun t ht hb hneg => ?_, fun hne => ?_⟩
    · have hmem : Conjunct.single t ∈ conjuncts terms :=
        mem_conjuncts.mpr (.inl ⟨t, ht, by simp [Term.isOrdered, Term.isBare, hkey], rfl⟩)
      obtain ⟨clause, hclause⟩ := exists_clause hc hmem
      obtain ⟨key', column, hkey', hcolumn, hiff⟩ :=
        holds_iff_of_column hn (hk t ht) (by simp [hkey]) hclause rows row
      rw [hkey] at hkey'
      cases hkey'
      exact ⟨column, hcolumn, hiff.mp (h _ hmem clause hclause)⟩
    · have hmem : Conjunct.single t ∈ conjuncts terms :=
        mem_conjuncts.mpr (.inl ⟨t, ht, by simp [Term.isOrdered, hneg], rfl⟩)
      obtain ⟨clause, hclause⟩ := exists_clause hc hmem
      have := (holds_iff_of_bare (hk t ht) hb hclause rows row).mp (h _ hmem clause hclause)
      simpa [hneg] using this
    · have hmem : Conjunct.ordered (terms.filter Term.isOrdered) ∈ conjuncts terms :=
        mem_conjuncts.mpr (.inr ⟨hne, rfl⟩)
      obtain ⟨clause, hclause⟩ := exists_clause hc hmem
      exact (holds_iff_of_ordered hne hko ho hclause rows row).mp (h _ hmem clause hclause)
  · rintro ⟨hcolumns, hnegated, hordered⟩ c hmem clause hclause
    rcases mem_conjuncts.mp hmem with ⟨t, ht, hto, rfl⟩ | ⟨hne, rfl⟩
    · cases hkey : t.column with
      | none =>
        have hneg : t.negate = true := by simpa [Term.isOrdered, Term.isBare, hkey] using hto
        rw [holds_iff_of_bare (hk t ht) hkey hclause]
        simpa [hneg] using hnegated t ht hkey hneg
      | some key =>
        obtain ⟨key', column, hkey', hcolumn, hiff⟩ :=
          holds_iff_of_column hn (hk t ht) (by simp [hkey]) hclause rows row
        obtain ⟨column', hcolumn', hstands⟩ := hcolumns t ht key hkey
        rw [hkey] at hkey'
        cases hkey'
        rw [hcolumn] at hcolumn'
        cases hcolumn'
        exact hiff.mpr hstands
    · exact (holds_iff_of_ordered hne hko ho hclause rows row).mpr (hordered hne)

/-- In a table of ages and names, `:age "30" a.b NOT c a` keeps a row of which the name has `a.b`,
some characters and `a`. -/
theorem accepts_name_and_age : ∃ directory clauses,
    Directory.build [.column "age" none (some 1), .skip, .column "name" none none] = .ok directory ∧
    compileTerms directory [⟨some "age", .quote, "30", false⟩, ⟨none, .word, "a.b", false⟩,
      ⟨none, .word, "c", true⟩, ⟨none, .quote, "a", false⟩] = .ok clauses ∧
    (Filter.allOf clauses).accepts (.ofRows directory [[" 30", "c", "xa.b a"]] 0) = true := by
  let directory : Directory :=
    ⟨[⟨"age", none, some 1, 0, 1⟩, ⟨"name", none, none, 2, 2⟩]⟩
  let terms : List Term := [⟨some "age", .quote, "30", false⟩, ⟨none, .word, "a.b", false⟩,
    ⟨none, .word, "c", true⟩, ⟨none, .quote, "a", false⟩]
  have hd : Directory.build [.column "age" none (some 1), .skip, .column "name" none none] =
      .ok directory := by rfl
  have hok : (compileTerms directory terms).isOk = true := by decide +kernel
  cases hc : compileTerms directory terms with
  | error e => simp [hc, Except.isOk, Except.toBool] at hok
  | ok clauses =>
    refine ⟨directory, clauses, hd, hc, ?_⟩
    have hk : ∀ t ∈ terms, t.kind ≠ .regex := by decide
    refine (accepts_iff_of_literal hd hk hc _ _).mpr ⟨?_, by decide +kernel, fun _ => ?_⟩
    · intro t ht key hkey
      simp only [terms, List.mem_cons, List.not_mem_nil, or_false] at ht
      rcases ht with rfl | rfl | rfl | rfl
      · cases hkey
        refine ⟨⟨"age", none, some 1, 0, 1⟩, rfl, fun _ => rfl, fun _ => ⟨?_, fun _ => ?_⟩⟩
        · decide
        · decide +kernel
      · cases hkey
      · cases hkey
      · cases hkey
    · exact ⟨[[' ']], rfl, by decide, by decide +kernel⟩

end Query
end RowQuery
