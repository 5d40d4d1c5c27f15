/-!
The edit distance of two texts.

* `distance`: the least number of characters to insert, delete or replace.
-/
namespace RowQuery.Text

/-- The row of distances after one more character of the first text. `corner` and `left` are the
distances up and to the left of the place being filled, and up to the one above it. -/
def distanceRow [BEq α] (a : α) (corner left : Nat) : List α → List Nat → List Nat
  | b :: bs, up :: ups =>
    let here := Nat.min (Nat.min (left + 1) (up + 1)) (if a == b then corner else corner + 1)
    here :: distanceRow a up here bs ups
  | _, _ => []

/-- The distances of a text from the beginnings of `bs`, given those of the text before it: the
first and the others. -/
def distanceRows [BEq α] (bs : List α) : List α → Nat → List Nat → Nat × List Nat
  | [], first, row => (first, row)
  | a :: r, first, row => distanceRows bs r (first + 1) (distanceRow a first (first + 1) bs row)

/-- The least number of insertions, deletions and replacements of single characters that turn one
text into the other. -/
def distance [BEq α] (a b : List α) : Nat :=
  let (first, row) := distanceRows b a 0 ((List.range b.length).map (· + 1))
  row.getLast?.getD first

end RowQuery.Text
