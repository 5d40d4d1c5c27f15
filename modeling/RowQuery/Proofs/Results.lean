import Mathlib.Data.List.Forall2

/-!
Computations that may fail.

* `bind_eq_ok_iff`, `mapError_eq_ok_iff`, `mapM_eq_ok_iff`: what has gone well where such a computation has.
* `exists_of_isOk`: the result of one that goes well.
-/
namespace RowQuery

variable {ε ε' α β : Type}

theorem exists_of_isOk {x : Except ε α} (h : x.isOk = true) : ∃ a, x = .ok a := by
  cases x with
  | error e => cases h
  | ok a => exact ⟨a, rfl⟩

theorem bind_eq_ok_iff {x : Except ε α} {f : α → Except ε β} {b : β} :
    x >>= f = .ok b ↔ ∃ a, x = .ok a ∧ f a = .ok b := by
  cases x <;> simp [bind, Except.bind]

theorem mapError_eq_ok_iff {f : ε → ε'} {x : Except ε α} {a : α} :
    x.mapError f = .ok a ↔ x = .ok a := by
  cases x <;> simp [Except.mapError]

/-- Where results are computed one after another, all of them are, in the same order. -/
theorem mapM_eq_ok_iff {f : α → Except ε β} {l : List α} {r : List β} :
    l.mapM f = .ok r ↔ List.Forall₂ (fun a b => f a = .ok b) l r := by
  induction l generalizing r with
  | nil =>
    rw [List.mapM_nil, List.forall₂_nil_left_iff]
    constructor
    · intro h
      cases h
      rfl
    · rintro rfl
      rfl
  | cons a l ih =>
    rw [List.mapM_cons, List.forall₂_cons_left_iff, bind_eq_ok_iff]
    simp only [bind_eq_ok_iff, ih]
    constructor
    · rintro ⟨b, ha, t, hl, hr⟩
      cases hr
      exact ⟨b, t, ha, hl, rfl⟩
    · rintro ⟨b, t, ha, hl, rfl⟩
      exact ⟨b, ha, t, hl, rfl⟩

end RowQuery
