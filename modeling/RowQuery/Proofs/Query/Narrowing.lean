import RowQuery.Proofs.Query.Validity
import RowQuery.Proofs.Regex.Woven

/-!
What becomes of a filter when terms are added to it.

* `isMatch_deriveAll_iff_woven`: the ordered terms are found where their patterns match one after another.
* `accepts_of_sublist`: a row that is accepted is accepted with fewer terms too, if the patterns of the
  ordered terms keep to their groups, and those left out between others match within a line.
-/
namespace RowQuery.Query

variable {limit : Regex.Limit} {directory : Directory} {terms more : List Term}

/-- The pattern of ordered terms is found where the patterns of the terms match one after another. -/
theorem isMatch_deriveAll_iff_woven {regex : Regex} (hne : terms ≠ [])
    (ho : ∀ t ∈ terms, t.isOrdered = true)
    (hc : 2 ≤ terms.length → ∀ t ∈ terms, t.kind = .regex → Regex.Contained t.text.toList)
    (h : Regex.compile limit (deriveAll terms) = .ok regex) (text : List Char) :
    regex.isMatch text = true ↔
      ∃ p q : Regex.Place, p.Lies text ∧ Regex.Woven (patterns terms) p q := by
  have hparse := Regex.parse?_of_compile h
  have hspans : ∀ p q : Regex.Place, regex.node.Spans p q ↔ Regex.Woven (patterns terms) p q := by
    intro p q
    match terms with
    | [] => exact absurd rfl hne
    | [t] =>
      rw [Regex.eq_node_of_parse? hparse]
      simp [patterns, deriveAll, Regex.Woven, Regex.GoesOn]
    | t :: t' :: rest =>
      rw [deriveAll_eq_joined (by simp), String.toList_ofList] at hparse
      refine Regex.spans_joined_iff (by simp [patterns]) (fun pattern hpattern => ?_) hparse
      obtain ⟨u, hu, rfl⟩ := List.mem_map.mp hpattern
      exact contained_derive (ho u hu) (hc (by simp) u hu)
  simp only [Regex.isMatch_iff_spans, hspans]

theorem holds_iff_isMatch_of_ordered {clause : Clause} (h : compileOrdered limit terms = .ok clause)
    (data : RowData) :
    clause.holds data = true ↔ clause.regex.isMatch data.wholeRow.toList = true := by
  obtain ⟨-, htarget, hnegate⟩ := of_compileOrdered h
  rw [holds_iff, hnegate, htarget, Target.extract]
  exact iff_true_right rfl

/-- A row that is accepted is accepted with fewer terms too, where the patterns of the ordered terms keep to
their groups, unless there is one only. Ordered terms may be left out between two others if the text of the
row has no line break, or if what they match in it has none. -/
theorem accepts_of_sublist {clauses clauses' : List Clause} (data : RowData)
    (h : compileWithin limit directory terms = .ok clauses)
    (h' : compileWithin limit directory more = .ok clauses') (hsub : terms.Sublist more)
    (hc : 2 ≤ (more.filter Term.isOrdered).length →
      ∀ t ∈ more.filter Term.isOrdered, t.kind = .regex → Regex.Contained t.text.toList)
    (hline : '\n' ∉ data.wholeRow.toList ∨
      Regex.Thins (fun t => Regex.WithinLine data.wholeRow.toList (derive t).toList)
        (terms.filter Term.isOrdered) (more.filter Term.isOrdered))
    (haccepts : (Filter.allOf clauses').accepts data = true) :
    (Filter.allOf clauses).accepts data = true := by
  have hordered : (terms.filter Term.isOrdered).Sublist (more.filter Term.isOrdered) := hsub.filter _
  rw [accepts_iff h'] at haccepts
  rw [accepts_iff h]
  intro c hmem clause hclause
  rcases mem_conjuncts.mp hmem with ⟨t, ht, hto, rfl⟩ | ⟨hne, rfl⟩
  · exact haccepts _ (mem_conjuncts.mpr (.inl ⟨t, hsub.subset ht, hto, rfl⟩)) clause hclause
  · have hne' : more.filter Term.isOrdered ≠ [] := by
      intro hnil
      rw [hnil] at hordered
      exact hne (List.sublist_nil.mp hordered)
    have hmem' := mem_conjuncts.mpr (.inr ⟨hne', rfl⟩)
    obtain ⟨clause', hclause'⟩ := exists_clause h' hmem'
    have hthins : Regex.Thins (Regex.WithinLine data.wholeRow.toList)
        (patterns (terms.filter Term.isOrdered)) (patterns (more.filter Term.isOrdered)) := by
      rcases hline with hline | hthins
      · exact .of_sublist (hordered.map _) (Regex.withinLine_of_not_mem hline)
      · exact hthins.map
    have hmatch := (holds_iff_isMatch_of_ordered hclause' data).mp (haccepts _ hmem' clause' hclause')
    rw [isMatch_deriveAll_iff_woven hne' (fun t ht => (List.mem_filter.mp ht).2) hc
      (of_compileOrdered hclause').1] at hmatch
    obtain ⟨p, q, hp, hwoven⟩ := hmatch
    rw [holds_iff_isMatch_of_ordered hclause,
      isMatch_deriveAll_iff_woven hne (fun t ht => (List.mem_filter.mp ht).2)
        (fun hlen t ht => hc (Nat.le_trans hlen hordered.length_le) t (hordered.subset ht))
        (of_compileOrdered hclause).1]
    obtain ⟨p', q', hp', hkept⟩ := hwoven.of_thins (by simpa [patterns] using hne) hthins hp
    exact ⟨p', q', hp', hkept⟩

/-- What the filter of some terms decides on a row can be computed. -/
theorem exists_clauses_of_decision (directory : Directory) (terms : List Term) (data : RowData) (kept : Bool)
    (h : (compileTerms directory terms).toOption.map (fun clauses => (Filter.allOf clauses).accepts data) =
      some kept) :
    ∃ clauses, compileTerms directory terms = .ok clauses ∧ (Filter.allOf clauses).accepts data = kept := by
  obtain ⟨clauses, hclauses, hkept⟩ := Option.map_eq_some_iff.mp h
  refine ⟨clauses, ?_, hkept⟩
  cases hc : compileTerms directory terms with
  | error e =>
    rw [hc] at hclauses
    cases hclauses
  | ok clauses' =>
    rw [hc] at hclauses
    cases hclauses
    rfl

/-- The row `a y c` is accepted by `a c`, since it is by `a /x|y/ c`. -/
theorem accepts_without_choice : ∃ clauses clauses',
    compileTerms .empty [⟨none, .word, "a", false⟩, ⟨none, .word, "c", false⟩] = .ok clauses ∧
    compileTerms .empty [⟨none, .word, "a", false⟩, ⟨none, .regex, "x|y", false⟩,
      ⟨none, .word, "c", false⟩] = .ok clauses' ∧
    (Filter.allOf clauses').accepts ⟨["a y c"]⟩ = true ∧
    (Filter.allOf clauses).accepts ⟨["a y c"]⟩ = true := by
  obtain ⟨clauses, h, -⟩ := exists_clauses_of_decision .empty
    [⟨none, .word, "a", false⟩, ⟨none, .word, "c", false⟩] ⟨["a y c"]⟩ true (by decide +kernel)
  obtain ⟨clauses', h', haccepts⟩ := exists_clauses_of_decision .empty
    [⟨none, .word, "a", false⟩, ⟨none, .regex, "x|y", false⟩, ⟨none, .word, "c", false⟩] ⟨["a y c"]⟩ true
    (by decide +kernel)
  have hc : ∀ t ∈ [(⟨none, .word, "a", false⟩ : Term), ⟨none, .regex, "x|y", false⟩,
      ⟨none, .word, "c", false⟩], t.kind = .regex → Regex.Contained t.text.toList := by
    have hwf : Regex.Pattern.WellFormed "x|y".toList := by decide +kernel
    have hcomment : ¬ Regex.Pattern.WellFormed ("x|y".toList ++ [')']) := by decide +kernel
    simp only [List.mem_cons, List.not_mem_nil, or_false]
    rintro t (rfl | rfl | rfl) hk
    · cases hk
    · exact ⟨fun _ _ => hwf, fun _ => hcomment⟩
    · cases hk
  refine ⟨clauses, clauses', h, h', haccepts, ?_⟩
  refine accepts_of_sublist ⟨["a y c"]⟩ h h' (.cons_cons _ (.cons _ (.cons_cons _ .slnil)))
    (fun _ t ht => hc t (List.mem_of_mem_filter ht)) (.inl ?_) haccepts
  decide +kernel

/-- With a quote of `x` and `y` in two lines between `a` and `b`, a row is accepted that `a b` does not accept:
a gap lies within a line. -/
theorem accepts_with_line_break_only : ∃ directory clauses clauses',
    Directory.ofNames ["name"] = .ok directory ∧
    [(⟨none, .word, "a", false⟩ : Term), ⟨none, .word, "b", false⟩].Sublist
      [⟨none, .word, "a", false⟩, ⟨none, .quote, "x\ny", false⟩, ⟨none, .word, "b", false⟩] ∧
    compileTerms directory [⟨none, .word, "a", false⟩, ⟨none, .word, "b", false⟩] = .ok clauses ∧
    compileTerms directory [⟨none, .word, "a", false⟩, ⟨none, .quote, "x\ny", false⟩,
      ⟨none, .word, "b", false⟩] = .ok clauses' ∧
    (Filter.allOf clauses').accepts (.ofRows directory [["a x\ny b"]] 0) = true ∧
    (Filter.allOf clauses).accepts (.ofRows directory [["a x\ny b"]] 0) = false := by
  let directory : Directory := ⟨[⟨"name", none, some 1, 0, 1⟩]⟩
  let data : RowData := .ofRows directory [["a x\ny b"]] 0
  obtain ⟨clauses, h, hrefused⟩ := exists_clauses_of_decision directory
    [⟨none, .word, "a", false⟩, ⟨none, .word, "b", false⟩] data false (by decide +kernel)
  obtain ⟨clauses', h', haccepts⟩ := exists_clauses_of_decision directory
    [⟨none, .word, "a", false⟩, ⟨none, .quote, "x\ny", false⟩, ⟨none, .word, "b", false⟩] data true
    (by decide +kernel)
  exact ⟨directory, clauses, clauses', rfl, .cons_cons _ (.cons _ (.cons_cons _ .slnil)), h, h', haccepts,
    hrefused⟩

end RowQuery.Query
