import Mathlib.Data.List.Basic
import Mathlib.Data.List.TakeWhile
import RowQuery.Text.Blank

/-!
White space, and texts without it at their ends.

* `Text.Blank`: white space alone.
* `Text.trim_eq_nil_iff`: of this and nothing else trimming leaves nothing.
* `Text.Solid`: texts that are not empty and have no white space at either end.
-/
namespace RowQuery.Text

/-- White space alone. -/
def Blank (w : List Char) : Prop := ∀ c ∈ w, isBlank c = true

/-- A text that is not empty and has no white space at either end. -/
structure Solid (k : List Char) : Prop where
  ne_nil : k ≠ []
  head : ∀ c ∈ k.head?, isBlank c = false
  last : ∀ c ∈ k.getLast?, isBlank c = false

variable {w k h s : List Char}

theorem Blank.append (hw : Blank w) (hs : Blank s) : Blank (w ++ s) := by
  intro c hc
  rcases List.mem_append.mp hc with hc | hc
  · exact hw c hc
  · exact hs c hc

@[simp] theorem trimStart_nil : trimStart [] = [] := rfl

theorem trimStart_append (hw : Blank w) (s : List Char) : trimStart (w ++ s) = trimStart s :=
  List.dropWhile_append_of_pos hw

theorem trimStart_eq_nil (hw : Blank w) : trimStart w = [] := by
  simpa using trimStart_append hw []

theorem exists_eq_append_trimStart (s : List Char) : ∃ w, Blank w ∧ s = w ++ trimStart s :=
  ⟨s.takeWhile isBlank, List.all_eq_true.mp List.all_takeWhile,
    List.takeWhile_append_dropWhile.symm⟩

/-- What stands behind a text does not keep the white space before it from being dropped. -/
theorem trimStart_trimStart_append (s w : List Char) : trimStart (trimStart s ++ w) = trimStart (s ++ w) := by
  obtain ⟨v, hv, hs⟩ := exists_eq_append_trimStart s
  calc trimStart (trimStart s ++ w)
    _ = trimStart (v ++ (trimStart s ++ w)) := (trimStart_append hv _).symm
    _ = trimStart (s ++ w) := by rw [← List.append_assoc, ← hs]

theorem exists_eq_trimEnd_append (s : List Char) : ∃ w, Blank w ∧ s = trimEnd s ++ w := by
  induction s with
  | nil => exact ⟨[], by simp [Blank], rfl⟩
  | cons c r ih =>
    obtain ⟨w, hw, hr⟩ := ih
    rw [trimEnd]
    cases ht : trimEnd r with
    | nil =>
      rw [ht, List.nil_append] at hr
      cases hc : isBlank c with
      | true => exact ⟨c :: w, List.forall_mem_cons.mpr ⟨hc, hw⟩, congrArg (c :: ·) hr⟩
      | false => exact ⟨w, hw, congrArg (c :: ·) hr⟩
    | cons d t =>
      rw [ht] at hr
      exact ⟨w, hw, congrArg (c :: ·) hr⟩

theorem trimStart_of_head (h : ∀ c ∈ s.head?, isBlank c = false) : trimStart s = s := by
  cases s with
  | nil => rfl
  | cons c r => exact trimStart_cons_ink (h c rfl) r

theorem isBlank_of_mem_head?_trimStart {c : Char} (hc : c ∈ (trimStart s).head?) :
    isBlank c = false := by
  obtain ⟨r, hr⟩ := List.head?_eq_some_iff.mp hc
  exact isBlank_of_trimStart_eq_cons hr

theorem trimStart_trimStart (s : List Char) : trimStart (trimStart s) = trimStart s :=
  trimStart_of_head fun _ => isBlank_of_mem_head?_trimStart

/-- A text is white space alone if nothing is left when it is trimmed. -/
theorem trim_eq_nil_iff : trim s = [] ↔ Blank s := by
  constructor
  · intro h
    cases hs : trimStart s with
    | nil => exact List.dropWhile_eq_nil_iff.mp hs
    | cons c r =>
      obtain ⟨t, ht⟩ := trimEnd_cons_ink (isBlank_of_trimStart_eq_cons hs) r
      rw [trim, hs, ht] at h
      cases h
  · intro h
    rw [trim, trimStart_eq_nil h]
    rfl

namespace Solid

theorem trimStart_append (hk : Solid k) (s : List Char) : trimStart (k ++ s) = k ++ s := by
  refine trimStart_of_head fun c hc => hk.head c ?_
  rwa [List.head?_append_of_ne_nil _ hk.ne_nil] at hc

theorem trimStart_eq (hk : Solid k) : trimStart k = k := by
  simpa using hk.trimStart_append []

theorem append (hk : Solid k) (hh : Solid h) (w : List Char) : Solid (k ++ (w ++ h)) where
  ne_nil := by simp [hk.ne_nil]
  head := by
    rw [List.head?_append_of_ne_nil _ hk.ne_nil]
    exact hk.head
  last := by
    rw [← List.append_assoc, List.getLast?_append_of_ne_nil _ hh.ne_nil]
    exact hh.last

/-- A text without white space is solid. -/
theorem of_forall (hne : k ≠ []) (hk : ∀ c ∈ k, isBlank c = false) : Solid k where
  ne_nil := hne
  head := fun c hc => hk c (List.mem_of_mem_head? hc)
  last := fun c hc => hk c (List.mem_of_mem_getLast? hc)

end Solid
end RowQuery.Text
