import Mathlib.Data.List.DropRight
import Mathlib.Data.Set.Card
import RowQuery.Row.Evaluator

/-!
What a cache of rows holds, and what evaluations decide with it, over whole runs.

* `RowCache.Use`, `RowCache.run`: what is done with a cache, each time with the table as it is then.
* `RowCache.firstBuilt?`: the table from which the data of a row was first read since it was last forgotten.
* `RowCache.get?_run`: that table is where the data held for a row comes from.
* `RowCache.Refreshed`: a row that changes is forgotten before it is read again.
* `RowCache.evaluate_run`: what evaluations decide after any run.
-/
namespace RowQuery

namespace RowData

variable {directory : Directory} {rows other : Rows} {row : Nat}

/-- The data of a row depends on the cells of that row only. -/
theorem ofRows_congr (h : rows[row]? = other[row]?) :
    ofRows directory rows row = ofRows directory other row := by
  simp only [ofRows, Rows.cell?, h]

end RowData

namespace Evaluation

variable (decisions : List Bool)

theorem matchedRows_sorted : (ofDecisions decisions).matchedRows.Pairwise (· < ·) := by
  have hindices : (decisions.zipIdx.map Prod.snd).Pairwise (· < ·) := by
    rw [List.zipIdx_map_snd]
    exact List.pairwise_lt_range'
  refine List.Pairwise.filterMap _ ?_ (List.pairwise_map.mp hindices)
  rintro ⟨kept, row⟩ ⟨kept', row'⟩ hlt i hi j hj
  obtain ⟨-, rfl⟩ : kept = true ∧ row = i := by simpa using hi
  obtain ⟨-, rfl⟩ : kept' = true ∧ row' = j := by simpa using hj
  exact hlt

theorem mem_matchedRows_iff {row : Nat} :
    row ∈ (ofDecisions decisions).matchedRows ↔ decisions[row]? = some true := by
  simp only [matchedRows, ofDecisions, List.mem_filterMap, Prod.exists, List.mem_zipIdx_iff_getElem?]
  constructor
  · rintro ⟨kept, i, hkept, hi⟩
    obtain ⟨rfl, rfl⟩ : kept = true ∧ i = row := by simpa using hi
    exact hkept
  · intro h
    exact ⟨true, row, h, by simp⟩

/-- The rows kept by decisions that are made row by row. -/
theorem matchedRows_map_range (n : Nat) (test : Nat → Bool) :
    (ofDecisions ((List.range n).map test)).matchedRows = (List.range n).filter test := by
  refine (matchedRows_sorted _).eq_of_mem_iff (List.pairwise_lt_range.filter test) fun row => ?_
  rw [mem_matchedRows_iff, List.mem_filter, List.mem_range, List.getElem?_map]
  by_cases hrow : row < n <;> simp [hrow]

end Evaluation

namespace RowCache

variable {directory : Directory} {filter : Filter} {rows other : Rows} {cache : RowCache} {row : Nat}

/-! ## The rows held -/

@[simp]
theorem get?_empty (row : Nat) : empty.get? row = none := rfl

theorem join_getElem?_put (data : RowData) (n : Nat) (slots : List (Option RowData)) (i : Nat) :
    ((put data n slots)[i]?).join = if i = n then some data else (slots[i]?).join := by
  induction n generalizing slots i with
  | zero => cases slots <;> cases i <;> simp [put]
  | succ n ih => cases slots <;> cases i <;> simp [put, ih]

theorem get?_invalidate (cache : RowCache) (row i : Nat) :
    (cache.invalidate row).get? i = if i = row then none else cache.get? i := by
  rw [invalidate, get?, get?, List.getElem?_set]
  by_cases h : row = i
  · subst h
    by_cases hlt : row < cache.slots.length <;> simp [hlt]
  · simp [h, Ne.symm h]

/-- As many rows are held as `cached` says. -/
theorem encard_held (cache : RowCache) : {row | (cache.get? row).isSome}.encard = cache.cached := by
  obtain ⟨slots⟩ := cache
  simp only [get?, cached]
  induction slots with
  | nil => simp
  | cons slot slots ih =>
    -- the slots other than the first are those of `slots`, one place further on
    have hsplit : {row | (((slot :: slots)[row]?).join).isSome} =
        {row | row = 0 ∧ slot.isSome} ∪ Nat.succ '' {row | ((slots[row]?).join).isSome} := by
      ext row
      cases row <;> simp
    have hdisjoint : Disjoint {row | row = 0 ∧ slot.isSome}
        (Nat.succ '' {row | ((slots[row]?).join).isSome}) := by
      rw [Set.disjoint_left]
      rintro row ⟨rfl, -⟩ ⟨i, -, hi⟩
      cases hi
    rw [hsplit, Set.encard_union_eq hdisjoint, Nat.succ_injective.encard_image, ih]
    cases slot <;> simp [add_comm]

/-! ## Reading a row -/

/-- The data that a row is taken to have. -/
def dataOf (cache : RowCache) (directory : Directory) (rows : Rows) (row : Nat) : RowData :=
  (cache.get? row).getD (RowData.ofRows directory rows row)

theorem fst_getOrBuild : (cache.getOrBuild directory rows row).1 = cache.dataOf directory rows row := by
  rw [getOrBuild, dataOf]
  cases cache.get? row <;> rfl

/-- Reading a row makes sure that it is held. -/
theorem get?_getOrBuild (i : Nat) :
    (cache.getOrBuild directory rows row).2.get? i =
      if i = row then some (cache.dataOf directory rows row) else cache.get? i := by
  rw [getOrBuild, dataOf]
  cases h : cache.get? row with
  | none => simp [get?, join_getElem?_put]
  | some data =>
    by_cases hi : i = row
    · simp [hi, h]
    · simp [hi]

/-- Reading a row does not change what any row is taken to have. -/
theorem dataOf_getOrBuild (i : Nat) :
    (cache.getOrBuild directory rows row).2.dataOf directory rows i =
      cache.dataOf directory rows i := by
  rw [dataOf, get?_getOrBuild]
  by_cases hi : i = row
  · simp [hi]
  · simp [hi, dataOf]

/-! ## Reading all rows -/

theorem fst_evaluateFrom (count row : Nat) (cache : RowCache) :
    (evaluateFrom filter directory rows count row cache).1 =
      (List.range' row count).map fun i => filter.accepts (cache.dataOf directory rows i) := by
  induction count generalizing row cache with
  | zero => rfl
  | succ count ih =>
    simp only [evaluateFrom, fst_getOrBuild, ih, dataOf_getOrBuild, List.range'_succ, List.map_cons]

theorem get?_evaluateFrom (count row : Nat) (cache : RowCache) (i : Nat) :
    (evaluateFrom filter directory rows count row cache).2.get? i =
      if row ≤ i ∧ i < row + count then some (cache.dataOf directory rows i) else cache.get? i := by
  induction count generalizing row cache with
  | zero => simp [evaluateFrom, show ¬ (row ≤ i ∧ i < row) by omega]
  | succ count ih =>
    simp only [evaluateFrom, ih, dataOf_getOrBuild, get?_getOrBuild]
    by_cases hi : i = row
    · subst hi
      simp
    · simp only [hi, if_false]
      congr 1
      exact propext ⟨fun h => by omega, fun h => by omega⟩

/-- The decision on every row is the filter's on the data that the row is taken to have. -/
theorem decisions_evaluate (cache : RowCache) (filter : Filter) (directory : Directory) (rows : Rows) :
    (cache.evaluate filter directory rows).1 = .ofDecisions ((List.range rows.length).map fun row =>
      filter.accepts (cache.dataOf directory rows row)) := by
  cases filter with
  | acceptAll =>
    simp only [evaluate, Filter.acceptsAll, if_true, Filter.accepts]
    rw [List.map_const', List.map_const', List.length_range]
  | allOf clauses =>
    simp only [evaluate, Filter.acceptsAll, Bool.false_eq_true, if_false]
    rw [fst_evaluateFrom, List.range_eq_range']

theorem snd_evaluate_of_acceptsAll (h : filter.acceptsAll) :
    (cache.evaluate filter directory rows).2 = cache := by
  rw [evaluate, if_pos h]

/-- A filter that looks at the rows makes sure that all of them are held. -/
theorem get?_evaluate (h : ¬ filter.acceptsAll) (i : Nat) :
    (cache.evaluate filter directory rows).2.get? i =
      if i < rows.length then some (cache.dataOf directory rows i) else cache.get? i := by
  rw [evaluate, if_neg h]
  simp only [get?_evaluateFrom, Nat.zero_le, true_and, Nat.zero_add]

/-! ## Runs -/

/-- What is done with a cache. -/
inductive Operation where
  | evaluate (filter : Filter)
  | read (row : Nat)
  | invalidate (row : Nat)
  | clear

/-- One use of a cache: what is done, and the table at that time, which may have changed in any way since the
use before. -/
structure Use where
  operation : Operation
  rows : Rows

namespace Use

/-- Whether the data of a row is asked for, so that it is built if it is not held. -/
def reads (use : Use) (row : Nat) : Bool :=
  match use.operation with
  | .evaluate filter => !filter.acceptsAll && decide (row < use.rows.length)
  | .read i => row == i
  | .invalidate _ => false
  | .clear => false

/-- Whether the data of a row is dropped. -/
def forgets (use : Use) (row : Nat) : Bool :=
  match use.operation with
  | .evaluate _ => false
  | .read _ => false
  | .invalidate i => row == i
  | .clear => true

/-- The cache after a use of it. -/
def apply (directory : Directory) (cache : RowCache) (use : Use) : RowCache :=
  match use.operation with
  | .evaluate filter => (cache.evaluate filter directory use.rows).2
  | .read row => (cache.getOrBuild directory use.rows row).2
  | .invalidate row => cache.invalidate row
  | .clear => cache.clear

/-- What one use does to the data held for a row. -/
theorem get?_apply (use : Use) (row : Nat) :
    (use.apply directory cache).get? row =
      if use.forgets row then none
      else (cache.get? row).or
        (if use.reads row then some (RowData.ofRows directory use.rows row) else none) := by
  obtain ⟨operation, rows⟩ := use
  cases operation with
  | evaluate filter =>
    by_cases hall : filter.acceptsAll
    · simp [apply, forgets, reads, hall, snd_evaluate_of_acceptsAll]
    · by_cases hrow : row < rows.length
      · cases h : cache.get? row <;> simp [apply, forgets, reads, hall, get?_evaluate, hrow, dataOf, h]
      · simp [apply, forgets, reads, hall, get?_evaluate, hrow]
  | read i =>
    by_cases hrow : row = i
    · subst hrow
      cases h : cache.get? row <;> simp [apply, forgets, reads, get?_getOrBuild, dataOf, h]
    · simp [apply, forgets, reads, get?_getOrBuild, hrow]
  | invalidate i => simp [apply, forgets, reads, get?_invalidate]
  | clear => simp [apply, forgets, clear]

end Use

/-- The cache after some uses of it. -/
def run (directory : Directory) (cache : RowCache) (uses : List Use) : RowCache :=
  uses.foldl (Use.apply directory) cache

/-- The table at the first use that asked for a row since the row was last forgotten. -/
def firstBuilt? (uses : List Use) (row : Nat) : Option Rows :=
  ((uses.rtakeWhile fun use => !use.forgets row).find? (·.reads row)).map Use.rows

/-- The table from which the data of a row comes when it is asked for: the present one if none has been built
since the row was last forgotten. -/
def source (uses : List Use) (rows : Rows) (row : Nat) : Rows := (firstBuilt? uses row).getD rows

variable {uses more : List Use} {use : Use}

theorem firstBuilt?_concat (uses : List Use) (use : Use) (row : Nat) :
    firstBuilt? (uses ++ [use]) row =
      if use.forgets row then none
      else (firstBuilt? uses row).or (if use.reads row then some use.rows else none) := by
  rw [firstBuilt?, List.rtakeWhile_concat]
  by_cases hforgets : use.forgets row
  · simp [hforgets]
  · cases hreads : use.reads row <;> simp [hforgets, hreads, firstBuilt?]

/-- The data held for a row is that of the table at its first use since it was last forgotten. -/
theorem get?_run (directory : Directory) (uses : List Use) (row : Nat) :
    (empty.run directory uses).get? row =
      (firstBuilt? uses row).map fun rows => RowData.ofRows directory rows row := by
  induction uses using List.reverseRecOn with
  | nil => rfl
  | append_singleton uses use ih =>
    rw [run, List.foldl_concat, Use.get?_apply, ← run, ih, firstBuilt?_concat]
    by_cases hforgets : use.forgets row
    · simp [hforgets]
    · cases firstBuilt? uses row <;> cases hreads : use.reads row <;> simp [hforgets]

theorem dataOf_run (directory : Directory) (uses : List Use) (rows : Rows) (row : Nat) :
    (empty.run directory uses).dataOf directory rows row =
      RowData.ofRows directory (source uses rows row) row := by
  rw [dataOf, get?_run, source]
  cases firstBuilt? uses row <;> rfl

/-! ## Rows that change -/

/-- In some uses of a cache, a row that changed from one use to the next is always forgotten before it is
asked for. -/
def Refreshed (uses : List Use) : Prop :=
  ∀ before after rest, before :: after :: rest <:+ uses →
    ∀ row, before.rows[row]? ≠ after.rows[row]? →
      ∀ between use later, after :: rest = between ++ use :: later → use.reads row →
        ∃ forgetting ∈ between, forgetting.forgets row

theorem Refreshed.of_suffix (h : Refreshed uses) (hsuffix : more <:+ uses) : Refreshed more :=
  fun before after rest hrest => h before after rest (hrest.trans hsuffix)

/-- A row that is asked for and was not forgotten has not changed. -/
theorem Refreshed.getElem?_eq {first : Use} {between later : List Use}
    (h : Refreshed (first :: between ++ use :: later)) (hreads : use.reads row)
    (hkept : ∀ other ∈ between, ¬ other.forgets row) : first.rows[row]? = use.rows[row]? := by
  induction between generalizing first with
  | nil =>
    by_contra hne
    obtain ⟨_, hmem, -⟩ := h first use later (List.suffix_refl _) row hne [] use later rfl hreads
    cases hmem
  | cons next between ih =>
    have hnext : next.rows[row]? = use.rows[row]? :=
      ih (h.of_suffix (List.suffix_cons _ _)) fun other hmem => hkept other (List.mem_cons_of_mem _ hmem)
    rw [← hnext]
    by_contra hne
    obtain ⟨forgetting, hmem, hforgets⟩ := h first next (between ++ use :: later) (List.suffix_refl _)
      row hne (next :: between) use later rfl hreads
    exact hkept forgetting hmem hforgets

/-- The table that `firstBuilt?` gives is that of a use after which the row was not forgotten. -/
theorem exists_of_firstBuilt? (h : firstBuilt? uses row = some rows) :
    ∃ old first between, uses = old ++ first :: between ∧ first.rows = rows ∧
      ∀ other ∈ between, ¬ other.forgets row := by
  obtain ⟨first, hfind, hrows⟩ := Option.map_eq_some_iff.mp h
  obtain ⟨-, old, between, hrecent, -⟩ := List.find?_eq_some_iff_append.mp hfind
  obtain ⟨forgotten, hforgotten⟩ := List.rtakeWhile_suffix (fun use : Use => !use.forgets row) uses
  refine ⟨forgotten ++ old, first, between, ?_, hrows, fun other hmem => ?_⟩
  · rw [← hforgotten, hrecent, List.append_assoc]
  · have hother : other ∈ uses.rtakeWhile fun use => !use.forgets row := by
      rw [hrecent]
      exact List.mem_append_right _ (List.mem_cons_of_mem _ hmem)
    simpa using List.mem_rtakeWhile_imp hother

/-- In refreshed uses every row that is asked for has the data that it has in the present table. -/
theorem ofRows_source_of_refreshed (h : Refreshed (uses ++ use :: more)) (hreads : use.reads row) :
    RowData.ofRows directory (source uses use.rows row) row = RowData.ofRows directory use.rows row := by
  rw [source]
  cases hfirst : firstBuilt? uses row with
  | none => rfl
  | some rows =>
    obtain ⟨old, first, between, rfl, rfl, hkept⟩ := exists_of_firstBuilt? hfirst
    rw [List.append_assoc] at h
    exact RowData.ofRows_congr ((h.of_suffix (List.suffix_append _ _)).getElem?_eq hreads hkept)

/-- After any uses of a cache the data held for a row is that of the table at the row's first use since it was
last forgotten, and `cached` counts the rows that have such a use. Whatever the table is by then, a row that is
read has that data, or its present one if it has no such use; an evaluation decides on every row of the table
by the same data, counts the rows that it keeps and lists them in their order. A filter that keeps all rows
reads none of them. If rows that change are forgotten before they are asked for, every evaluation decides as
one with nothing held. -/
theorem evaluate_run (directory : Directory) (uses : List Use) (filter : Filter) (rows : Rows) :
    (∀ row, (empty.run directory uses).get? row =
      (firstBuilt? uses row).map fun built => RowData.ofRows directory built row) ∧
    {row | (firstBuilt? uses row).isSome}.encard = (empty.run directory uses).cached ∧
    (∀ row, ((empty.run directory uses).getOrBuild directory rows row).1 =
      RowData.ofRows directory (source uses rows row) row) ∧
    ((empty.run directory uses).evaluate filter directory rows).1.decisions =
      (List.range rows.length).map (fun row =>
        filter.accepts (RowData.ofRows directory (source uses rows row) row)) ∧
    ((empty.run directory uses).evaluate filter directory rows).1.matched =
      ((empty.run directory uses).evaluate filter directory rows).1.decisions.count true ∧
    ((empty.run directory uses).evaluate filter directory rows).1.matchedRows.Pairwise (· < ·) ∧
    (∀ row, row ∈ ((empty.run directory uses).evaluate filter directory rows).1.matchedRows ↔
      ((empty.run directory uses).evaluate filter directory rows).1.decisions[row]? = some true) ∧
    (filter.acceptsAll → ((empty.run directory uses).evaluate filter directory rows).2 =
      empty.run directory uses) ∧
    ∀ more, Refreshed (uses ++ ⟨.evaluate filter, rows⟩ :: more) →
      ((empty.run directory uses).evaluate filter directory rows).1 =
        (empty.evaluate filter directory rows).1 := by
  have hheld : {row | (firstBuilt? uses row).isSome} =
      {row | ((empty.run directory uses).get? row).isSome} := by
    ext row
    simp [get?_run]
  refine ⟨get?_run directory uses, ?_, fun row => ?_, ?_, ?_, ?_, fun row => ?_,
    snd_evaluate_of_acceptsAll, fun more hrefreshed => ?_⟩
  · rw [hheld, encard_held]
  · rw [fst_getOrBuild, dataOf_run]
  · simp only [decisions_evaluate, dataOf_run, Evaluation.ofDecisions]
  · rw [decisions_evaluate, Evaluation.ofDecisions]
  · rw [decisions_evaluate]
    exact Evaluation.matchedRows_sorted _
  · rw [decisions_evaluate]
    exact Evaluation.mem_matchedRows_iff _
  · simp only [decisions_evaluate, dataOf_run]
    refine congrArg Evaluation.ofDecisions (List.map_congr_left fun row hrow => ?_)
    cases filter with
    | acceptAll => rfl
    | allOf clauses =>
      have hreads : Use.reads ⟨.evaluate (.allOf clauses), rows⟩ row := by
        simpa [Use.reads, Filter.acceptsAll] using hrow
      rw [ofRows_source_of_refreshed hrefreshed hreads]
      rfl

theorem evaluate_run_invalidated :
    Refreshed [⟨.evaluate (.allOf []), [["a"]]⟩, ⟨.invalidate 0, [["b"]]⟩,
      ⟨.evaluate (.allOf []), [["b"]]⟩] ∧
    ((empty.run .empty [⟨.evaluate (.allOf []), [["a"]]⟩, ⟨.invalidate 0, [["b"]]⟩]).evaluate
      (.allOf []) .empty [["b"]]).1 = (empty.evaluate (.allOf []) .empty [["b"]]).1 := by
  have hrefreshed : Refreshed [⟨.evaluate (.allOf []), [["a"]]⟩, ⟨.invalidate 0, [["b"]]⟩,
      ⟨.evaluate (.allOf []), [["b"]]⟩] := by
    intro before after rest hsuffix row hne between use later hrest hreads
    obtain ⟨rfl, rfl, rfl⟩ | ⟨rfl, rfl, rfl⟩ : (before = ⟨.evaluate (.allOf []), [["a"]]⟩ ∧
        after = ⟨.invalidate 0, [["b"]]⟩ ∧ rest = [⟨.evaluate (.allOf []), [["b"]]⟩]) ∨
        (before = ⟨.invalidate 0, [["b"]]⟩ ∧ after = ⟨.evaluate (.allOf []), [["b"]]⟩ ∧ rest = []) := by
      simpa [List.suffix_cons_iff] using hsuffix
    · -- only the first row changes, and it is forgotten at once
      have hrow : row = 0 := by
        cases row with
        | zero => rfl
        | succ row => exact absurd rfl hne
      subst hrow
      cases between with
      | nil =>
        cases hrest
        cases hreads
      | cons forgetting between =>
        obtain ⟨rfl, -⟩ := List.cons.inj hrest
        exact ⟨_, List.mem_cons_self, rfl⟩
    · exact absurd rfl hne
  exact ⟨hrefreshed, (evaluate_run .empty [⟨.evaluate (.allOf []), [["a"]]⟩, ⟨.invalidate 0, [["b"]]⟩]
    (.allOf []) [["b"]]).2.2.2.2.2.2.2.2 [] hrefreshed⟩

end RowCache
end RowQuery
