import RowQuery.Unicode.Property

/-!
White space and the characters of words.

* `Intervals.exists_of_mem_ofTable`: what is in the set of a table lies in an interval that it lists.
* `Intervals.Avoids`: no interval that a table lists has any of some code points, line by line.
* `Property.mem_word_of_isBlank`: white space is no part of a word.
-/
namespace RowQuery.Unicode

namespace Intervals

/-- A tree has only the intervals that it is made of, and what is left over are such intervals too. -/
theorem exists_of_mem_build {n : Nat} (k : Nat) (items : List (Nat × Nat)) :
    ((build k items).1.mem n = true → ∃ i ∈ items, i.1 ≤ n ∧ n ≤ i.2) ∧
      ∀ i ∈ (build k items).2, i ∈ items := by
  induction k using Nat.strongRecOn generalizing items with
  | ind k ih =>
    unfold build
    split
    · simp [mem]
    · next hk =>
      obtain ⟨hleft, hrest⟩ := ih (k / 2) (by omega) items
      cases hb : build (k / 2) items with
      | mk left items' =>
        rw [hb] at hleft hrest
        cases items' with
        | nil => exact ⟨hleft, by simp⟩
        | cons i items' =>
          obtain ⟨first, last⟩ := i
          obtain ⟨hright, hrest'⟩ := ih (k - 1 - k / 2) (by omega) items'
          refine ⟨fun h => ?_, fun i hi => hrest _ (List.mem_cons_of_mem _ (hrest' i hi))⟩
          simp only [mem] at h
          split at h
          · exact hleft h
          · split at h
            · obtain ⟨i, hi, h⟩ := hright h
              exact ⟨i, hrest _ (List.mem_cons_of_mem _ hi), h⟩
            · exact ⟨_, hrest _ List.mem_cons_self, by simp only; omega⟩

theorem exists_of_mem_ofTable {n : Nat} {table : List String} (h : (ofTable table).mem n = true) :
    ∃ i ∈ listed table, i.1 ≤ n ∧ n ≤ i.2 :=
  (exists_of_mem_build _ _).1 h

/-- Whether no interval in a line of a table has any of some code points. -/
def avoids (codes : List Nat) (line : List Char) : Bool :=
  ((wordsFrom [] line).flatMap ofWord).all fun i => codes.all fun n => n < i.1 || i.2 < n

/-- No interval that a table lists has any of some code points. The lines are given by their
characters, which are easier to go through than those of a string. -/
inductive Avoids (codes : List Nat) : List String → Prop
  | nil : Avoids codes []
  | cons {line : List Char} {lines : List String} (h : avoids codes line = true)
      (hr : Avoids codes lines) : Avoids codes (String.ofList line :: lines)

theorem Avoids.lt_or_lt {codes : List Nat} {table : List String} (h : Avoids codes table)
    {i : Nat × Nat} (hi : i ∈ listed table) {n : Nat} (hn : n ∈ codes) : n < i.1 ∨ i.2 < n := by
  induction h with
  | nil => simp [listed] at hi
  | @cons line lines h _ ih =>
    rw [listed, List.flatMap_cons, List.mem_append, String.toList_ofList] at hi
    rcases hi with hi | hi
    · simpa using List.all_eq_true.mp (List.all_eq_true.mp h i hi) n hn
    · exact ih hi

theorem Avoids.mem_eq_false {codes : List Nat} {table : List String} (h : Avoids codes table)
    {n : Nat} (hn : n ∈ codes) : (ofTable table).mem n = false := by
  rw [Bool.eq_false_iff]
  intro hmem
  obtain ⟨i, hi, hle⟩ := exists_of_mem_ofTable hmem
  have := h.lt_or_lt hi hn
  omega

end Intervals

namespace Property

/-- The code points of the white space that is not basic Latin. -/
def blankCodes : List Nat :=
  [0x85, 0xa0, 0x1680] ++ List.range' 0x2000 11 ++ [0x2028, 0x2029, 0x202f, 0x205f, 0x3000]

section Tables

variable {n : Nat}

theorem mem_otherAlphabetic_of_mem_blankCodes (hn : n ∈ blankCodes) :
    Members.otherAlphabetic.mem n = false := by
  refine Intervals.Avoids.mem_eq_false ?_ hn
  repeat' (first | exact .nil | refine .cons (by decide +kernel) ?_)

theorem mem_joinControl_of_mem_blankCodes (hn : n ∈ blankCodes) :
    Members.joinControl.mem n = false := by
  refine Intervals.Avoids.mem_eq_false ?_ hn
  repeat' (first | exact .nil | refine .cons (by decide +kernel) ?_)

/-- The categories of letters, marks, numbers and connectors that the characters of words have. -/
def wordCategories : List Category :=
  [.lowercaseLetter, .modifierLetter, .otherLetter, .titlecaseLetter, .uppercaseLetter,
    .spacingMark, .enclosingMark, .nonspacingMark, .decimalNumber, .letterNumber,
    .connectorPunctuation]

theorem mem_members_of_mem_blankCodes {category : Category} (hc : category ∈ wordCategories)
    (hn : n ∈ blankCodes) : category.members.mem n = false := by
  simp only [wordCategories, List.mem_cons, List.not_mem_nil, or_false] at hc
  rcases hc with rfl | rfl | rfl | rfl | rfl | rfl | rfl | rfl | rfl | rfl | rfl
  all_goals
    refine Intervals.Avoids.mem_eq_false ?_ hn
    repeat' (first | exact .nil | refine .cons (by decide +kernel) ?_)

end Tables

/-- White space is no part of a word. -/
theorem mem_word_of_isBlank {c : Char} (h : Text.isBlank c = true) : word.mem c = false := by
  simp only [Text.isBlank, Bool.or_eq_true, Bool.and_eq_true, beq_iff_eq, decide_eq_true_eq] at h
  by_cases hbasic : c.toNat < 0x80
  · rw [word, CharSet.mem, if_pos hbasic]
    simp only [basicWord, CharSet.ofIntervals, CharSet.mem_unionAll, CharSet.mem_interval,
      List.map_cons, List.map_nil, List.any_cons, List.any_nil, Bool.or_eq_false_iff,
      Bool.and_eq_false_iff, decide_eq_false_iff_not, and_true]
    omega
  · have hmem : c.toNat ∈ blankCodes := by
      simp only [blankCodes, List.mem_append, List.mem_range'_1, List.mem_cons, List.not_mem_nil,
        or_false]
      omega
    have hcategory : ∀ category ∈ wordCategories, category.members.mem c.toNat = false :=
      fun category hc => mem_members_of_mem_blankCodes hc hmem
    simp only [wordCategories, List.forall_mem_cons] at hcategory
    simp only [word, alphabetic, letter, mark, digit, ofCategories, CharSet.mem, hbasic, if_false,
      CharSet.mem_unionAll, List.map_cons, List.map_nil, List.any_cons, List.any_nil, hcategory,
      mem_otherAlphabetic_of_mem_blankCodes hmem, mem_joinControl_of_mem_blankCodes hmem,
      Bool.or_false]

end Property
end RowQuery.Unicode
