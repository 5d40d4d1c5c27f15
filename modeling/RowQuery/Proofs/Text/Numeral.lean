import Mathlib.Data.List.Induction

/-!
Decimal numerals.

* `Text.IsNumeral`: the digits of a number, behind any number of zeros.
* `Text.isNumeral_iff`: these are the texts of digits that have the number as their value.
-/
namespace RowQuery.Text

/-- A decimal numeral of a number: its digits, behind any number of zeros. -/
def IsNumeral (s : List Char) (n : Nat) : Prop :=
  ∃ zeros, s = List.replicate zeros '0' ++ Nat.toDigits 10 n

variable {s : List Char} {n : Nat}

theorem IsNumeral.isDigit (h : IsNumeral s n) {c : Char} (hc : c ∈ s) : c.isDigit = true := by
  obtain ⟨zeros, rfl⟩ := h
  rcases List.mem_append.mp hc with hc | hc
  · rw [(List.mem_replicate.mp hc).2]
    rfl
  · exact Nat.isDigit_of_mem_toDigits (by decide) (by decide) hc

theorem IsNumeral.ne_nil (h : IsNumeral s n) : s ≠ [] := by
  obtain ⟨zeros, rfl⟩ := h
  exact List.append_ne_nil_of_right_ne_nil _ Nat.toDigits_ne_nil

theorem IsNumeral.value_eq (h : IsNumeral s n) : Nat.ofDigitChars 10 s 0 = n := by
  obtain ⟨zeros, rfl⟩ := h
  rw [Nat.ofDigitChars_append, Nat.ofDigitChars_replicate_zero, Nat.mul_zero, Nat.ofDigitChars_ten_toDigits]

/-- A digit is the one of its value. -/
theorem exists_digitChar {c : Char} (h : c.isDigit = true) : ∃ d < 10, c = Nat.digitChar d := by
  have hrange : 48 ≤ c.toNat ∧ c.toNat ≤ 57 := Char.isDigit_iff_toNat.mp h
  refine ⟨c.toNat - 48, by omega, Char.toNat_inj.mp ?_⟩
  rw [Nat.toNat_digitChar_of_lt_ten (by omega)]
  omega

/-- One more digit. -/
theorem IsNumeral.snoc (h : IsNumeral s n) {d : Nat} (hd : d < 10) :
    IsNumeral (s ++ [Nat.digitChar d]) (10 * n + d) := by
  obtain ⟨zeros, rfl⟩ := h
  rcases Nat.eq_zero_or_pos n with rfl | hn
  · refine ⟨zeros + 1, ?_⟩
    rw [Nat.toDigits_zero, Nat.toDigits_of_lt_base (by omega), List.replicate_succ']
    simp
  · refine ⟨zeros, ?_⟩
    rw [List.append_assoc, ← Nat.toDigits_append_toDigits (by decide) hn hd, Nat.toDigits_of_lt_base hd]

/-- Every text of digits is a numeral of its value. The induction takes the last digit off. -/
theorem isNumeral_ofDigitChars (hne : s ≠ []) (h : ∀ c ∈ s, c.isDigit = true) :
    IsNumeral s (Nat.ofDigitChars 10 s 0) := by
  induction s using List.reverseRecOn with
  | nil => exact absurd rfl hne
  | append_singleton s c ih =>
    obtain ⟨d, hd, rfl⟩ := exists_digitChar (h c (by simp))
    rw [Nat.ofDigitChars_append, Nat.ofDigitChars_cons_digitChar_of_lt_ten hd, Nat.ofDigitChars_nil]
    by_cases hs : s = []
    · subst hs
      exact ⟨0, by simp [Nat.toDigits_of_lt_base hd]⟩
    · exact (ih hs fun c hc => h c (List.mem_append_left _ hc)).snoc hd

theorem isNumeral_iff :
    IsNumeral s n ↔ s ≠ [] ∧ (∀ c ∈ s, c.isDigit = true) ∧ Nat.ofDigitChars 10 s 0 = n := by
  constructor
  · intro h
    exact ⟨h.ne_nil, fun _ => h.isDigit, h.value_eq⟩
  · rintro ⟨hne, hdigits, rfl⟩
    exact isNumeral_ofDigitChars hne hdigits

end RowQuery.Text
