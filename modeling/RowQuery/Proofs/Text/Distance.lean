import Mathlib.Order.Bounds.Defs
import RowQuery.Text.Distance

/-!
The edit distance counts edits.

* `Text.Edits`: a text that becomes another by so many edits.
* `Text.levenshtein`: the distance by the recursion on the first characters.
* `Text.isLeast_levenshtein`: it is the least number of edits.
* `Text.distance_eq`: the rows of `Text.distance` hold the distances of the beginnings of the two texts.
* `Text.isLeast_distance`: so the distance is the least number of edits.

A row is filled from the left, so it speaks of beginnings, while the recursion speaks of ends. The two meet in
the reversed texts, which are as far apart as the texts are.
-/
namespace RowQuery.Text

variable {α : Type}

/-! ## Edits -/

/-- One character of a text is inserted, deleted or replaced. -/
inductive Edit : List α → List α → Prop
  | insert (front : List α) (c : α) (back : List α) : Edit (front ++ back) (front ++ c :: back)
  | delete (front : List α) (c : α) (back : List α) : Edit (front ++ c :: back) (front ++ back)
  | replace (front : List α) (c d : α) (back : List α) : Edit (front ++ c :: back) (front ++ d :: back)

/-- A text becomes another one by `n` edits, one after another. -/
inductive Edits : Nat → List α → List α → Prop
  | nil (a : List α) : Edits 0 a a
  | cons {n : Nat} {a b c : List α} (h : Edit a b) (hr : Edits n b c) : Edits (n + 1) a c

variable {a b c : List α} {n : Nat}

theorem Edit.cons (x : α) (h : Edit a b) : Edit (x :: a) (x :: b) := by
  cases h with
  | insert front c back => exact .insert (x :: front) c back
  | delete front c back => exact .delete (x :: front) c back
  | replace front c d back => exact .replace (x :: front) c d back

theorem Edit.reverse (h : Edit a b) : Edit a.reverse b.reverse := by
  cases h with
  | insert front c back => simpa using Edit.insert back.reverse c front.reverse
  | delete front c back => simpa using Edit.delete back.reverse c front.reverse
  | replace front c d back => simpa using Edit.replace back.reverse c d front.reverse

theorem Edits.snoc (h : Edits n a b) (he : Edit b c) : Edits (n + 1) a c := by
  induction h with
  | nil => exact .cons he (.nil c)
  | cons hfirst _ ih => exact .cons hfirst (ih he)

theorem Edits.cons_both (x : α) (h : Edits n a b) : Edits n (x :: a) (x :: b) := by
  induction h with
  | nil => exact .nil _
  | cons hfirst _ ih => exact .cons (hfirst.cons x) ih

theorem Edits.reverse (h : Edits n a b) : Edits n a.reverse b.reverse := by
  induction h with
  | nil => exact .nil _
  | cons hfirst _ ih => exact .cons hfirst.reverse ih

theorem edits_zero_iff : Edits 0 a b ↔ a = b := by
  constructor
  · intro h
    cases h
    rfl
  · rintro rfl
    exact .nil a

/-- A text of `n` characters is written, or wiped out, by `n` edits. -/
theorem edits_nil_left (b : List α) : Edits b.length [] b := by
  induction b with
  | nil => exact .nil []
  | cons y b ih => exact ih.snoc (.insert [] y b)

theorem edits_nil_right (a : List α) : Edits a.length a [] := by
  induction a with
  | nil => exact .nil []
  | cons x a ih => exact .cons (.delete [] x a) ih

/-! ## The recursion on the first characters -/

section
variable [BEq α]

/-- The distance of two texts, by what becomes of their first characters: that of the second text is
inserted, or that of the first is deleted, or the one becomes the other. -/
def levenshtein : List α → List α → Nat
  | [], b => b.length
  | x :: a, [] => (x :: a).length
  | x :: a, y :: b =>
    min (min (levenshtein (x :: a) b + 1) (levenshtein a (y :: b) + 1))
      (if x == y then levenshtein a b else levenshtein a b + 1)
termination_by a b => a.length + b.length

@[simp] theorem levenshtein_nil_left (b : List α) : levenshtein [] b = b.length := by rw [levenshtein]

@[simp] theorem levenshtein_nil_right (a : List α) : levenshtein a [] = a.length := by
  cases a with
  | nil => rw [levenshtein]
  | cons x a => rw [levenshtein]

theorem levenshtein_cons_cons (x y : α) (a b : List α) :
    levenshtein (x :: a) (y :: b) =
      min (min (levenshtein (x :: a) b + 1) (levenshtein a (y :: b) + 1))
        (if x == y then levenshtein a b else levenshtein a b + 1) := by
  rw [levenshtein]

/-! ## One edit changes the distance by at most one -/

theorem levenshtein_cons_left_le (x : α) (a c : List α) :
    levenshtein (x :: a) c ≤ levenshtein a c + 1 := by
  cases c with
  | nil => simp
  | cons z c =>
    rw [levenshtein_cons_cons]
    omega

theorem levenshtein_cons_right_le (z : α) (a c : List α) :
    levenshtein a (z :: c) ≤ levenshtein a c + 1 := by
  cases a with
  | nil => simp
  | cons x a =>
    rw [levenshtein_cons_cons]
    omega

theorem levenshtein_cons_cons_le (x z : α) (a c : List α) :
    levenshtein (x :: a) (z :: c) ≤ levenshtein a c + 1 := by
  rw [levenshtein_cons_cons]
  split
  · omega
  · omega

theorem levenshtein_le_cons_left (x : α) (a c : List α) :
    levenshtein a c ≤ levenshtein (x :: a) c + 1 := by
  induction c with
  | nil =>
    simp only [levenshtein_nil_right, List.length_cons]
    omega
  | cons z c ih =>
    have hright := levenshtein_cons_right_le z a c
    rw [levenshtein_cons_cons]
    split
    · omega
    · omega

theorem levenshtein_cons_left_le_cons_left (x y : α) (a c : List α) :
    levenshtein (x :: a) c ≤ levenshtein (y :: a) c + 1 := by
  induction c with
  | nil => simp
  | cons z c ih =>
    have hleft := levenshtein_cons_left_le x a (z :: c)
    have hright := levenshtein_cons_right_le z (x :: a) c
    have hboth := levenshtein_cons_cons_le x z a c
    rw [levenshtein_cons_cons y z]
    split
    · omega
    · omega

theorem levenshtein_cons_le_cons (h : ∀ c, levenshtein a c ≤ levenshtein b c + 1) (x : α)
    (c : List α) : levenshtein (x :: a) c ≤ levenshtein (x :: b) c + 1 := by
  induction c with
  | nil => simpa using h []
  | cons z c ih =>
    have hall := h (z :: c)
    have hrest := h c
    rw [levenshtein_cons_cons, levenshtein_cons_cons]
    split
    · omega
    · omega

/-- The edit may stand anywhere in the text: the induction is on what stands before it. -/
theorem levenshtein_le_of_edit (h : Edit a b) (c : List α) : levenshtein a c ≤ levenshtein b c + 1 := by
  cases h with
  | insert front x back =>
    induction front generalizing c with
    | nil => exact levenshtein_le_cons_left x back c
    | cons y front ih => exact levenshtein_cons_le_cons ih y c
  | delete front x back =>
    induction front generalizing c with
    | nil => exact levenshtein_cons_left_le x back c
    | cons y front ih => exact levenshtein_cons_le_cons ih y c
  | replace front x y back =>
    induction front generalizing c with
    | nil => exact levenshtein_cons_left_le_cons_left x y back c
    | cons z front ih => exact levenshtein_cons_le_cons ih z c

/-! ## The least number of edits -/

variable [LawfulBEq α]

theorem levenshtein_self (a : List α) : levenshtein a a = 0 := by
  induction a with
  | nil => simp
  | cons x a ih => simp [levenshtein_cons_cons, ih]

/-- No fewer edits will do. -/
theorem levenshtein_le_of_edits (h : Edits n a b) : levenshtein a b ≤ n := by
  induction h with
  | nil a => exact Nat.le_of_eq (levenshtein_self a)
  | cons hfirst _ ih => exact Nat.le_trans (levenshtein_le_of_edit hfirst _) (Nat.succ_le_succ ih)

/-- That many edits will do. -/
theorem edits_levenshtein (a b : List α) : Edits (levenshtein a b) a b := by
  induction a, b using levenshtein.induct with
  | case1 b => simpa using edits_nil_left b
  | case2 x a => simpa using edits_nil_right (x :: a)
  | case3 x a y b hinsert hdelete hmatch =>
    have hchoice : levenshtein (x :: a) (y :: b) = levenshtein (x :: a) b + 1 ∨
        levenshtein (x :: a) (y :: b) = levenshtein a (y :: b) + 1 ∨
        levenshtein (x :: a) (y :: b) = if x == y then levenshtein a b else levenshtein a b + 1 := by
      rw [levenshtein_cons_cons]
      omega
    rcases hchoice with h | h | h
    · rw [h]
      exact hinsert.snoc (.insert [] y b)
    · rw [h]
      exact .cons (.delete [] x a) hdelete
    · rw [h]
      split
      · next heq =>
        obtain rfl := eq_of_beq heq
        exact hmatch.cons_both x
      · exact .cons (.replace [] x y a) (hmatch.cons_both y)

theorem isLeast_levenshtein (a b : List α) : IsLeast {n | Edits n a b} (levenshtein a b) :=
  ⟨edits_levenshtein a b, fun _ h => levenshtein_le_of_edits h⟩

theorem levenshtein_reverse (a b : List α) : levenshtein a.reverse b.reverse = levenshtein a b := by
  refine Nat.le_antisymm (levenshtein_le_of_edits (edits_levenshtein a b).reverse) ?_
  have hback := (edits_levenshtein a.reverse b.reverse).reverse
  rw [List.reverse_reverse, List.reverse_reverse] at hback
  exact levenshtein_le_of_edits hback

end

/-! ## Rows of distances -/

section
variable [BEq α]

/-- The distances of a text from `before` and one, two and more characters of the text after it. Both texts
are held in reverse. -/
def levenshteinRow (a before : List α) : List α → List Nat
  | [] => []
  | y :: b => levenshtein a (y :: before) :: levenshteinRow a (y :: before) b

theorem levenshteinRow_nil (before b : List α) :
    levenshteinRow [] before b = (List.range b.length).map fun i => before.length + i + 1 := by
  induction b generalizing before with
  | nil => rfl
  | cons y b ih =>
    rw [levenshteinRow, ih, levenshtein_nil_left, List.length_cons, List.length_cons, List.range_succ_eq_map,
      List.map_cons, List.map_map]
    refine congrArg _ (List.map_congr_left fun i _ => ?_)
    rw [Function.comp_apply]
    omega

/-- One more character of the first text: the row of `a` gives that of `x :: a`. -/
theorem distanceRow_levenshteinRow (x : α) (a before b : List α) :
    distanceRow x (levenshtein a before) (levenshtein (x :: a) before) b (levenshteinRow a before b) =
      levenshteinRow (x :: a) before b := by
  induction b generalizing before with
  | nil => rfl
  | cons y b ih =>
    rw [levenshteinRow, levenshteinRow, distanceRow, ← ih, levenshtein_cons_cons]

/-- All characters of the first text, with `before` read already. -/
theorem distanceRows_levenshteinRow (before a b : List α) :
    distanceRows b a before.length (levenshteinRow before [] b) =
      (a.length + before.length, levenshteinRow (a.reverse ++ before) [] b) := by
  induction a generalizing before with
  | nil => simp [distanceRows]
  | cons x a ih =>
    have hrow := distanceRow_levenshteinRow x before [] b
    rw [levenshtein_nil_right, levenshtein_nil_right, List.length_cons] at hrow
    have hrest := ih (x :: before)
    rw [List.length_cons] at hrest
    rw [distanceRows, hrow, hrest, List.reverse_cons, List.append_assoc, List.length_cons,
      Nat.add_right_comm]
    rfl

/-- The last distance of a row is that of the whole texts. -/
theorem getLast?_levenshteinRow (a before b : List α) :
    ((levenshteinRow a before b).getLast?).getD (levenshtein a before) =
      levenshtein a (b.reverse ++ before) := by
  induction b generalizing before with
  | nil => rfl
  | cons y b ih =>
    rw [levenshteinRow, List.getLast?_cons, Option.getD_some, ih, List.reverse_cons, List.append_assoc]
    rfl

variable [LawfulBEq α]

theorem distance_eq (a b : List α) : distance a b = levenshtein a b := by
  have hfirst : (List.range b.length).map (· + 1) = levenshteinRow [] [] b := by
    simp [levenshteinRow_nil]
  -- The last row is that of `a.reverse`, and its last entry speaks of `b.reverse`.
  have hrows := distanceRows_levenshteinRow [] a b
  have hlast := getLast?_levenshteinRow a.reverse [] b
  rw [List.length_nil, Nat.add_zero, List.append_nil] at hrows
  rw [levenshtein_nil_right, List.length_reverse, List.append_nil, levenshtein_reverse] at hlast
  rw [distance, hfirst, hrows]
  exact hlast

/-- The distance of two texts is the least number of edits that turn one into the other. -/
theorem isLeast_distance (a b : List α) : IsLeast {n | Edits n a b} (distance a b) := by
  rw [distance_eq]
  exact isLeast_levenshtein a b

/-- Only equal texts have distance 0. -/
theorem distance_eq_zero_iff : distance a b = 0 ↔ a = b := by
  rw [← edits_zero_iff]
  constructor
  · intro h
    exact h ▸ (isLeast_distance a b).1
  · intro h
    exact Nat.le_zero.mp ((isLeast_distance a b).2 h)

end
end RowQuery.Text
