import Mathlib.Data.List.MinMax
import RowQuery.Proofs.Directory
import RowQuery.Proofs.Text.Distance

/-!
Which name is suggested for a key.

* `Directory.IsClosest`: the first of the names that are closest to a key.
* `Directory.closest?_eq_argmin`: the search finds it.
* `Directory.suggest?_eq_some_iff`: it is suggested if it is close and not the key itself.
* `Directory.suggest?_eq_none_of_no_name`, `Directory.suggest?_eq_none_of_name`: when nothing is suggested.
* `Directory.suggest?_closest`: what is suggested for a key, and when nothing is.

Names that differ in case only are equally far from every key. So a key that is a name need not be the closest
name to itself: the first of the names that differ from it in case only is.
-/
namespace RowQuery.Directory

variable {directory : Directory} {key name : String} {names : List String}

/-- A name is the first of the names that are closest to a key. -/
structure IsClosest (key : String) (names : List String) (name : String) : Prop where
  mem : name ∈ names
  le : ∀ other ∈ names, distance key name ≤ distance key other
  first : ∀ other ∈ names, distance key other ≤ distance key name → names.idxOf name ≤ names.idxOf other

theorem closest?_eq_argmin (key : String) (names : List String) :
    closest? key names = names.argmin (distance key) := by
  induction names with
  | nil => rfl
  | cons name names ih =>
    rw [closest?, ih, List.argmin_cons]
    cases names.argmin (distance key) with
    | none => rfl
    | some other =>
      by_cases hlt : distance key other < distance key name
      · simp [hlt, Nat.not_le.mpr hlt]
      · simp [hlt, Nat.not_lt.mp hlt]

theorem closest?_eq_some_iff : closest? key names = some name ↔ IsClosest key names name := by
  rw [closest?_eq_argmin, List.argmin_eq_some_iff]
  constructor
  · rintro ⟨hmem, hle, hfirst⟩
    exact ⟨hmem, hle, hfirst⟩
  · intro h
    exact ⟨h.mem, h.le, h.first⟩

theorem exists_isClosest (key : String) (h : names ≠ []) : ∃ name, IsClosest key names name := by
  have hsome : closest? key names ≠ none := by
    rw [closest?_eq_argmin]
    exact mt List.argmin_eq_none.mp h
  obtain ⟨name, hname⟩ := Option.ne_none_iff_exists'.mp hsome
  exact ⟨name, closest?_eq_some_iff.mp hname⟩

theorem IsClosest.unique {other : String} (h : IsClosest key names name) (ho : IsClosest key names other) :
    name = other :=
  Option.some.inj ((closest?_eq_some_iff.mpr h).symm.trans (closest?_eq_some_iff.mpr ho))

theorem suggest?_eq_some_iff : directory.suggest? key = some name ↔
    IsClosest key (directory.columns.flatMap Column.names) name ∧ name ≠ key ∧
      distance key name ≤ maxDistance := by
  rw [← closest?_eq_some_iff, suggest?]
  cases closest? key (directory.columns.flatMap Column.names) with
  | none => simp
  | some closest =>
    simp only [Option.ite_none_right_eq_some, Option.some.injEq]
    constructor
    · rintro ⟨hclose, rfl⟩
      exact ⟨rfl, hclose⟩
    · rintro ⟨rfl, hclose⟩
      exact ⟨hclose, rfl⟩

theorem suggest?_eq_none_iff : directory.suggest? key = none ↔
    ∀ name, IsClosest key (directory.columns.flatMap Column.names) name → name ≠ key →
      maxDistance < distance key name := by
  simp only [Option.eq_none_iff_forall_ne_some, ne_eq, suggest?_eq_some_iff, not_and, Nat.not_le]

/-- Names that differ in case only have distance 0. -/
theorem distance_eq_zero_iff :
    distance key name = 0 ↔ Text.lowercase key.toList = Text.lowercase name.toList :=
  Text.distance_eq_zero_iff

theorem distance_self (key : String) : distance key key = 0 := distance_eq_zero_iff.mpr rfl

/-- A key that is a name is the closest one unless another name that differs in case only comes first. -/
theorem isClosest_self_iff (h : key ∈ names) : IsClosest key names key ↔
    ∀ other ∈ names, Text.lowercase other.toList = Text.lowercase key.toList →
      names.idxOf key ≤ names.idxOf other := by
  constructor
  · intro hclosest other ho heq
    refine hclosest.first other ho (Nat.le_of_eq ?_)
    rw [distance_self, distance_eq_zero_iff.mpr heq.symm]
  · intro hfirst
    refine ⟨h, fun other _ => ?_, fun other ho hle => hfirst other ho ?_⟩
    · rw [distance_self]
      exact Nat.zero_le _
    · rw [distance_self] at hle
      exact (distance_eq_zero_iff.mp (Nat.le_zero.mp hle)).symm

/-- Nothing is suggested for a key that is no name exactly where all names are too far off. -/
theorem suggest?_eq_none_of_no_name (hno : key ∉ directory.columns.flatMap Column.names) :
    directory.suggest? key = none ↔
      ∀ name ∈ directory.columns.flatMap Column.names, maxDistance < distance key name := by
  rw [suggest?_eq_none_iff]
  constructor
  · intro hfar name hn
    obtain ⟨closest, hclosest⟩ := exists_isClosest key (List.ne_nil_of_mem hn)
    have hne : closest ≠ key := fun heq => hno (heq ▸ hclosest.mem)
    exact Nat.lt_of_lt_of_le (hfar closest hclosest hne) (hclosest.le name hn)
  · intro hfar closest hclosest _
    exact hfar closest hclosest.mem

/-- Nothing is suggested for a key that is a name exactly where it is the closest name itself. -/
theorem suggest?_eq_none_of_name (hmem : key ∈ directory.columns.flatMap Column.names) :
    directory.suggest? key = none ↔ IsClosest key (directory.columns.flatMap Column.names) key := by
  rw [suggest?_eq_none_iff]
  constructor
  · intro hfar
    -- The key is among the names, so the closest name is at distance 0, and not too far.
    obtain ⟨closest, hclosest⟩ := exists_isClosest key (List.ne_nil_of_mem hmem)
    by_cases heq : closest = key
    · rwa [heq] at hclosest
    · have hle := hclosest.le key hmem
      rw [distance_self] at hle
      exact absurd (hfar closest hclosest heq) (by omega)
  · intro hself closest hclosest hne
    exact absurd (hclosest.unique hself) hne

/-- What is suggested for a key is the first of the names, in the order of the columns, that are closest to it
without regard to case, if it is not the key itself and its distance is 3 at most. Of a key that is no name,
nothing is suggested exactly where all names are further off. For a key that is a name, nothing is suggested
unless another name that differs from it in case only comes before it; then the first such name is. -/
theorem suggest?_closest (directory : Directory) (key : String) :
    let names := directory.columns.flatMap Column.names
    (∀ name, IsLeast {n | Text.Edits n (Text.lowercase key.toList) (Text.lowercase name.toList)}
      (distance key name)) ∧
    (∀ name, directory.suggest? key = some name ↔
      IsClosest key names name ∧ name ≠ key ∧ distance key name ≤ 3) ∧
    (key ∉ names → (directory.suggest? key = none ↔ ∀ name ∈ names, 3 < distance key name)) ∧
    (key ∈ names → (directory.suggest? key = none ↔
      ∀ other ∈ names, Text.lowercase other.toList = Text.lowercase key.toList →
        names.idxOf key ≤ names.idxOf other)) := by
  intro names
  refine ⟨fun name => Text.isLeast_distance _ _, fun name => suggest?_eq_some_iff, fun hno => ?_,
    fun hmem => ?_⟩
  · exact suggest?_eq_none_of_no_name hno
  · exact (suggest?_eq_none_of_name hmem).trans (isClosest_self_iff hmem)

/-- A column is suggested for a name of a column where the two differ in case only and it comes first. -/
theorem suggest?_of_two_cases : ∃ directory, ofNames ["Status", "status"] = .ok directory ∧
    (∃ column ∈ directory.columns, "status" ∈ column.names) ∧
    directory.suggest? "status" = some "Status" := by
  refine ⟨⟨[⟨"Status", none, some 1, 0, 1⟩, ⟨"status", none, some 2, 1, 2⟩]⟩, rfl, ?_, ?_⟩
  · decide
  · decide +kernel

end RowQuery.Directory
