import RowQuery.Proofs.Results
import RowQuery.Query.Compile

/-!
The conditions that some terms make.

* `Conjunct`: the term or terms behind one clause.
* `conjuncts`: those of a list of terms, in the order of their clauses.
* `conjuncts_of_unordered`, `conjuncts_of_first`: the conjunct of the ordered terms stands where the first of
  them stood.
* `perm_conjunctsFrom`: the conjuncts of some terms, whatever their places.
* `compileWithin_eq_ok_iff`: the clauses of some terms are those of their conjuncts, one for each.
* `mem_conjuncts`: which conjuncts there are.
-/
namespace RowQuery

/-- An ordered term names no column and is not negated. -/
theorem Term.isOrdered_iff {term : Term} : term.isOrdered = true ↔ term.column = none ∧ term.negate = false := by
  simp [Term.isOrdered, Term.isBare]

namespace Query

/-- What one clause is made of: a single term, or the terms that are asked for in their order. -/
inductive Conjunct where
  | single (term : Term)
  | ordered (terms : List Term)
deriving DecidableEq, Repr

/-- The terms of a conjunct. -/
def Conjunct.terms : Conjunct → List Term
  | .single term => [term]
  | .ordered terms => terms

/-- The clause of a conjunct. -/
def Conjunct.compile (limit : Regex.Limit) (directory : Directory) :
    Conjunct → Except QueryError Clause
  | .single term => compileTerm limit directory term
  | .ordered terms => compileOrdered limit terms

/-- The conjuncts of some terms. `ordered` are the terms asked for in their order, until their
conjunct has been made. -/
def conjunctsFrom (ordered : Option (List Term)) : List Term → List Conjunct
  | [] => []
  | term :: rest =>
    if term.isOrdered then
      match ordered with
      | none => conjunctsFrom none rest
      | some terms => .ordered terms :: conjunctsFrom none rest
    else .single term :: conjunctsFrom ordered rest

/-- The conjuncts of some terms. -/
def conjuncts (terms : List Term) : List Conjunct :=
  conjunctsFrom (some (terms.filter Term.isOrdered)) terms

/-- Once the ordered terms have their conjunct, those that follow are left out. -/
theorem conjunctsFrom_none (terms : List Term) :
    conjunctsFrom none terms = (terms.filter fun t => !t.isOrdered).map .single := by
  induction terms with
  | nil => rfl
  | cons term rest ih => cases ht : term.isOrdered <;> simp [conjunctsFrom, ht, ih]

/-- Terms that are not ordered keep their places. -/
theorem conjunctsFrom_append (ordered : Option (List Term)) {front : List Term}
    (h : ∀ t ∈ front, t.isOrdered = false) (terms : List Term) :
    conjunctsFrom ordered (front ++ terms) = front.map .single ++ conjunctsFrom ordered terms := by
  induction front with
  | nil => rfl
  | cons term front ih =>
    obtain ⟨hterm, hfront⟩ := List.forall_mem_cons.mp h
    simp [conjunctsFrom, hterm, ih hfront]

theorem conjuncts_of_unordered {terms : List Term} (h : ∀ t ∈ terms, t.isOrdered = false) :
    conjuncts terms = terms.map .single := by
  have happend := conjunctsFrom_append (some (terms.filter Term.isOrdered)) h []
  simpa [conjuncts, conjunctsFrom] using happend

/-- The ordered terms have one conjunct, in the place of the first of them. -/
theorem conjuncts_of_first {front rest : List Term} {first : Term}
    (hfront : ∀ t ∈ front, t.isOrdered = false) (hfirst : first.isOrdered = true) :
    conjuncts (front ++ first :: rest) =
      front.map .single ++ .ordered ((front ++ first :: rest).filter Term.isOrdered) ::
        (rest.filter fun t => !t.isOrdered).map .single := by
  rw [conjuncts, conjunctsFrom_append _ hfront, conjunctsFrom, if_pos hfirst, conjunctsFrom_none]

/-- There is a conjunct for each term that is not ordered, and the one for the ordered terms stands somewhere
among them. -/
theorem perm_conjunctsFrom (ordered : Option (List Term)) (terms : List Term) :
    (conjunctsFrom ordered terms).Perm
      ((if terms.filter Term.isOrdered = [] then [] else ordered.toList.map .ordered) ++
        (terms.filter fun t => !t.isOrdered).map .single) := by
  induction terms generalizing ordered with
  | nil => exact .refl _
  | cons term rest ih =>
    cases ht : term.isOrdered with
    | true => cases ordered <;> simp [conjunctsFrom, conjunctsFrom_none, ht]
    | false =>
      have hfilter : (term :: rest).filter Term.isOrdered = rest.filter Term.isOrdered := by simp [ht]
      have hsingle : ((term :: rest).filter fun t => !t.isOrdered).map Conjunct.single =
          .single term :: (rest.filter fun t => !t.isOrdered).map .single := by
        simp [ht]
      have hcons : conjunctsFrom ordered (term :: rest) = .single term :: conjunctsFrom ordered rest := by
        simp [conjunctsFrom, ht]
      rw [hfilter, hsingle, hcons]
      exact ((ih ordered).cons _).trans List.perm_middle.symm

/-- Together the conjuncts have the terms that there are. -/
theorem perm_flatMap_conjuncts (terms : List Term) : ((conjuncts terms).flatMap Conjunct.terms).Perm terms := by
  have hordered : (if terms.filter Term.isOrdered = [] then []
      else [Conjunct.ordered (terms.filter Term.isOrdered)]).flatMap Conjunct.terms =
        terms.filter Term.isOrdered := by
    split
    · next hnil => rw [hnil]; rfl
    · simp [Conjunct.terms]
  have hsingle : ∀ ts : List Term, (ts.map Conjunct.single).flatMap Conjunct.terms = ts := by
    intro ts
    simp [List.flatMap_map, Conjunct.terms]
  have hperm := (perm_conjunctsFrom (some (terms.filter Term.isOrdered)) terms).flatMap_right Conjunct.terms
  rw [List.flatMap_append, hsingle] at hperm
  rw [conjuncts]
  exact (hordered ▸ hperm).trans (List.filter_append_perm Term.isOrdered terms)

theorem compileFrom_eq_mapM (limit : Regex.Limit) (directory : Directory)
    (ordered : Option (List Term)) (terms : List Term) :
    compileFrom limit directory ordered terms =
      (conjunctsFrom ordered terms).mapM (Conjunct.compile limit directory) := by
  induction terms generalizing ordered with
  | nil => rfl
  | cons term rest ih =>
    simp only [compileFrom, conjunctsFrom]
    split
    · cases ordered with
      | none => exact ih none
      | some terms =>
        rw [List.mapM_cons, ih]
        rfl
    · rw [List.mapM_cons, ih]
      rfl

/-- The clauses of some terms are those of their conjuncts. -/
theorem compileWithin_eq_ok_iff {limit : Regex.Limit} {directory : Directory} {terms : List Term}
    {clauses : List Clause} :
    compileWithin limit directory terms = .ok clauses ↔
      terms ≠ [] ∧ List.Forall₂ (fun c clause => c.compile limit directory = .ok clause)
        (conjuncts terms) clauses := by
  rw [compileWithin, conjuncts, ← mapM_eq_ok_iff, ← compileFrom_eq_mapM]
  cases terms with
  | nil => simp
  | cons term rest => simp

theorem mem_conjunctsFrom {ordered : Option (List Term)} {terms : List Term} {c : Conjunct} :
    c ∈ conjunctsFrom ordered terms ↔
      (∃ t ∈ terms, t.isOrdered = false ∧ c = .single t) ∨
        ∃ o, ordered = some o ∧ (∃ t ∈ terms, t.isOrdered = true) ∧ c = .ordered o := by
  induction terms generalizing ordered with
  | nil => simp [conjunctsFrom]
  | cons term rest ih =>
    simp only [conjunctsFrom]
    cases ht : term.isOrdered with
    | true =>
      cases ordered with
      | none => simp [ih, ht]
      | some o => simp [ih, ht, or_comm]
    | false => simp [ih, ht, or_assoc]

/-- There is a conjunct for each term that is not asked for in the order, and one for all those that
are. -/
theorem mem_conjuncts {terms : List Term} {c : Conjunct} :
    c ∈ conjuncts terms ↔
      (∃ t ∈ terms, t.isOrdered = false ∧ c = .single t) ∨
        terms.filter Term.isOrdered ≠ [] ∧ c = .ordered (terms.filter Term.isOrdered) := by
  rw [conjuncts, mem_conjunctsFrom]
  simp [List.filter_eq_nil_iff]

/-- A row satisfies every clause just if it satisfies the clause of each conjunct. -/
theorem accepts_iff {limit : Regex.Limit} {directory : Directory} {terms : List Term}
    {clauses : List Clause} (h : compileWithin limit directory terms = .ok clauses)
    (data : RowData) :
    (Filter.allOf clauses).accepts data = true ↔
      ∀ c ∈ conjuncts terms, ∀ clause, c.compile limit directory = .ok clause →
        clause.holds data = true := by
  replace h := (compileWithin_eq_ok_iff.mp h).2
  rw [Filter.accepts, List.all_eq_true]
  generalize conjuncts terms = l at h ⊢
  induction h with
  | nil => simp
  | @cons c clause l clauses hc _ ih =>
    simp only [List.forall_mem_cons, ih]
    constructor
    · rintro ⟨hh, hl⟩
      refine ⟨fun clause' hc' => ?_, hl⟩
      rw [hc] at hc'
      cases hc'
      exact hh
    · rintro ⟨hh, hl⟩
      exact ⟨hh clause hc, hl⟩

/-- Every conjunct of terms that compile has a clause. -/
theorem exists_clause {limit : Regex.Limit} {directory : Directory} {terms : List Term}
    {clauses : List Clause} (h : compileWithin limit directory terms = .ok clauses)
    {c : Conjunct} (hc : c ∈ conjuncts terms) :
    ∃ clause, c.compile limit directory = .ok clause := by
  replace h := (compileWithin_eq_ok_iff.mp h).2
  generalize conjuncts terms = l at h hc
  induction h with
  | nil => simp at hc
  | cons hclause _ ih =>
    rcases List.mem_cons.mp hc with rfl | hc
    · exact ⟨_, hclause⟩
    · exact ih hc

/-- Every clause of some terms is that of a conjunct. -/
theorem exists_conjunct {limit : Regex.Limit} {directory : Directory} {terms : List Term}
    {clauses : List Clause} (h : compileWithin limit directory terms = .ok clauses)
    {clause : Clause} (hc : clause ∈ clauses) :
    ∃ c ∈ conjuncts terms, c.compile limit directory = .ok clause := by
  replace h := (compileWithin_eq_ok_iff.mp h).2
  generalize conjuncts terms = l at h ⊢
  induction h with
  | nil => simp at hc
  | cons hclause _ ih =>
    rcases List.mem_cons.mp hc with rfl | hc
    · exact ⟨_, List.mem_cons_self, hclause⟩
    · obtain ⟨c, hmem, hcompile⟩ := ih hc
      exact ⟨c, List.mem_cons_of_mem _ hmem, hcompile⟩

/-- The filter of a query is made of its terms. -/
theorem compile_of_terms {diagnostics : Diagnostics} {directory : Directory} {query : String}
    {terms : List Term} (hne : Text.trim query.toList ≠ []) (hterms : terms ≠ [])
    (h : Grammar.parse? diagnostics directory (Text.trim query.toList) = some terms) :
    compile diagnostics directory query = (compileTerms directory terms).map .allOf := by
  have hempty : (Text.trim query.toList).isEmpty = false := by simpa using hne
  obtain ⟨term, rest, rfl⟩ := List.exists_cons_of_ne_nil hterms
  simp only [compile, parse, hempty, h, Bool.false_eq_true, if_false, bind, Except.bind]
  cases compileTerms directory (term :: rest) <;> rfl

end Query
end RowQuery
