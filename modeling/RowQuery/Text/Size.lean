/-!
How much room a text takes.

* `size`: the number of bytes of a text in UTF-8.
-/
namespace RowQuery.Text

/-- The number of bytes of a text in UTF-8. Of two texts, the one with fewer characters may have more
bytes. -/
def size : List Char → Nat
  | [] => 0
  | c :: s => c.utf8Size + size s

theorem size_append (s t : List Char) : size (s ++ t) = size s + size t := by
  induction s with
  | nil => exact (Nat.zero_add _).symm
  | cons c s ih =>
    rw [List.cons_append, size, size, ih]
    omega

theorem length_le_size (s : List Char) : s.length ≤ size s := by
  induction s with
  | nil => exact Nat.le_refl 0
  | cons c s ih =>
    have hc := c.utf8Size_pos
    rw [size, List.length_cons]
    omega

/-- Of an end of a text and the text, the one with fewer characters has fewer bytes. -/
theorem size_lt_of_suffix {r s : List Char} (h : r <:+ s) (hlt : r.length < s.length) : size r < size s := by
  obtain ⟨front, rfl⟩ := h
  have hfront := length_le_size front
  rw [List.length_append] at hlt
  rw [size_append]
  omega

end RowQuery.Text
