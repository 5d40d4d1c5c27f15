import RowQuery.Proofs.Query.Conjunct
import RowQuery.Proofs.Row.Evaluator

/-!
What the order of terms is good for.

* `conjuncts_perm`: terms in another order have the same conjuncts.
* `compileWithin_of_perm`: terms in another order have the same clauses in another order.
* `accepts_eq_of_perm`: only the order of the ordered terms among themselves makes a difference.
-/
namespace RowQuery.Query

variable {limit : Regex.Limit} {directory : Directory} {terms terms' : List Term}

/-- Terms in another order have the same conjuncts, if the ordered ones keep theirs. -/
theorem conjuncts_perm (hperm : terms.Perm terms')
    (hordered : terms.filter Term.isOrdered = terms'.filter Term.isOrdered) :
    (conjuncts terms).Perm (conjuncts terms') := by
  have hsingle : ((terms.filter fun t => !t.isOrdered).map Conjunct.single).Perm
      ((terms'.filter fun t => !t.isOrdered).map .single) := (hperm.filter _).map _
  refine (perm_conjunctsFrom _ terms).trans (.trans ?_ (perm_conjunctsFrom _ terms').symm)
  rw [hordered]
  exact hsingle.append_left _

/-- Terms in another order have the same clauses. -/
theorem compileWithin_of_perm (hperm : terms.Perm terms')
    (hordered : terms.filter Term.isOrdered = terms'.filter Term.isOrdered) {clauses : List Clause}
    (h : compileWithin limit directory terms = .ok clauses) :
    ∃ clauses', compileWithin limit directory terms' = .ok clauses' ∧ clauses.Perm clauses' := by
  obtain ⟨hne, hclauses⟩ := compileWithin_eq_ok_iff.mp h
  have hne' : terms' ≠ [] := fun hnil => hne (hnil ▸ hperm).eq_nil
  obtain ⟨clauses', hclauses', hperm'⟩ :=
    List.perm_comp_forall₂ (conjuncts_perm hperm hordered).symm hclauses
  exact ⟨clauses', compileWithin_eq_ok_iff.mpr ⟨hne', hclauses'⟩, hperm'.symm⟩

/-- A row that satisfies every clause does so in whatever order they are looked at. -/
theorem accepts_of_perm {clauses clauses' : List Clause} (h : clauses.Perm clauses') (data : RowData) :
    (Filter.allOf clauses).accepts data = (Filter.allOf clauses').accepts data := by
  rw [Bool.eq_iff_iff, Filter.accepts, Filter.accepts, List.all_eq_true, List.all_eq_true]
  simp only [h.mem_iff]

/-- Only the order of the ordered terms among themselves makes a difference. Terms in another order that
leaves these as they are compile just if the terms do, and then to the same clauses in some order, which accept the
same rows; so an evaluation of any table, whatever is held of its rows, has the same result. -/
theorem accepts_eq_of_perm (directory : Directory) (hperm : terms.Perm terms')
    (hordered : terms.filter Term.isOrdered = terms'.filter Term.isOrdered) :
    ((∃ clauses, compileTerms directory terms = .ok clauses) ↔
      ∃ clauses, compileTerms directory terms' = .ok clauses) ∧
    ∀ clauses clauses', compileTerms directory terms = .ok clauses →
      compileTerms directory terms' = .ok clauses' →
      clauses.Perm clauses' ∧
      (∀ data, (Filter.allOf clauses).accepts data = (Filter.allOf clauses').accepts data) ∧
      ∀ (cache : RowCache) (rows : Rows), (cache.evaluate (.allOf clauses) directory rows).1 =
        (cache.evaluate (.allOf clauses') directory rows).1 := by
  refine ⟨⟨?_, ?_⟩, fun clauses clauses' h h' => ?_⟩
  · rintro ⟨clauses, h⟩
    obtain ⟨clauses', h', -⟩ := compileWithin_of_perm hperm hordered h
    exact ⟨clauses', h'⟩
  · rintro ⟨clauses', h'⟩
    obtain ⟨clauses, h, -⟩ := compileWithin_of_perm hperm.symm hordered.symm h'
    exact ⟨clauses, h⟩
  · obtain ⟨other, hother, hclauses⟩ := compileWithin_of_perm hperm hordered h
    obtain rfl : other = clauses' := Except.ok.inj (hother.symm.trans h')
    refine ⟨hclauses, accepts_of_perm hclauses, fun cache rows => ?_⟩
    rw [RowCache.decisions_evaluate, RowCache.decisions_evaluate]
    simp only [accepts_of_perm hclauses]

/-- `NOT x a :name b /c/` and `a :name b /c/ NOT x`, where the clause of `a` and `/c/` comes at other places. -/
theorem accepts_eq_of_negation_last : ∃ directory clauses clauses',
    Directory.ofNames ["name"] = .ok directory ∧
    compileTerms directory [⟨none, .word, "x", true⟩, ⟨none, .word, "a", false⟩,
      ⟨some "name", .word, "b", false⟩, ⟨none, .regex, "c", false⟩] = .ok clauses ∧
    compileTerms directory [⟨none, .word, "a", false⟩, ⟨some "name", .word, "b", false⟩,
      ⟨none, .regex, "c", false⟩, ⟨none, .word, "x", true⟩] = .ok clauses' ∧
    ∀ data, (Filter.allOf clauses).accepts data = (Filter.allOf clauses').accepts data := by
  let directory : Directory := ⟨[⟨"name", none, some 1, 0, 1⟩]⟩
  let negated : Term := ⟨none, .word, "x", true⟩
  let others : List Term := [⟨none, .word, "a", false⟩, ⟨some "name", .word, "b", false⟩,
    ⟨none, .regex, "c", false⟩]
  have hperm : (negated :: others).Perm (others ++ [negated]) := by decide +kernel
  have hsame := accepts_eq_of_perm directory hperm (by decide +kernel)
  have hok : (compileTerms directory (negated :: others)).isOk = true := by decide +kernel
  cases h : compileTerms directory (negated :: others) with
  | error e => simp [h, Except.isOk, Except.toBool] at hok
  | ok clauses =>
    obtain ⟨clauses', h'⟩ := hsame.1.mp ⟨clauses, h⟩
    exact ⟨directory, clauses, clauses', rfl, h, h', (hsame.2 clauses clauses' h h').2.1⟩

end RowQuery.Query
