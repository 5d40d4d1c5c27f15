import RowQuery.Text.Blank
import RowQuery.Unicode.Casing

/-!
Sets of characters, as expressions.

* `CharSet`: unions, intersections and complements of intervals and tables.
* `CharSet.mem`: whether a character is in a set; its equations are the meaning of the expressions.
* `CharSet.anyCase`: a set closed under change of case.
* `CharSet.member?`, `CharSet.only?`, `CharSet.sameMembers`: questions about all characters of a set,
  answered from `CharSet.samples`.
* `CharSet.bridges`, `CharSet.same`, `CharSet.complement`: the pieces that a set consists of, which
  count at the surrogates.
-/
namespace RowQuery.Unicode

/-- An expression for a set of characters. `layered` tells the first 128 characters from the
others, so that nothing is looked up in a table for one of the first. -/
inductive CharSet where
  | none
  | interval (first last : Nat)
  | table (members : Intervals)
  | layered (basic other : CharSet)
  | union (a b : CharSet)
  | inter (a b : CharSet)
  | diff (a b : CharSet)
  | compl (a : CharSet)
  | anyCase (a : CharSet)
deriving DecidableEq

namespace CharSet

/-- Whether a character is in the set. -/
def mem : CharSet → Char → Bool
  | .none, _ => false
  | .interval first last, c => first ≤ c.toNat && c.toNat ≤ last
  | .table members, c => members.mem c.toNat
  | .layered basic other, c => if c.toNat < 0x80 then basic.mem c else other.mem c
  | .union a b, c => a.mem c || b.mem c
  | .inter a b, c => a.mem c && b.mem c
  | .diff a b, c => a.mem c && !b.mem c
  | .compl a, c => !a.mem c
  | .anyCase a, c => a.mem c || (Casing.equivalents c).any a.mem

@[simp] theorem mem_none (c : Char) : mem .none c = false := rfl

@[simp] theorem mem_interval (first last : Nat) (c : Char) :
    (interval first last).mem c = (decide (first ≤ c.toNat) && decide (c.toNat ≤ last)) := rfl

@[simp] theorem mem_union (a b : CharSet) (c : Char) :
    (union a b).mem c = (a.mem c || b.mem c) := rfl

@[simp] theorem mem_inter (a b : CharSet) (c : Char) :
    (inter a b).mem c = (a.mem c && b.mem c) := rfl

@[simp] theorem mem_diff (a b : CharSet) (c : Char) :
    (diff a b).mem c = (a.mem c && !b.mem c) := rfl

@[simp] theorem mem_compl (a : CharSet) (c : Char) : (compl a).mem c = !a.mem c := rfl

/-- Every character. -/
def all : CharSet := .compl .none

@[simp] theorem mem_all (c : Char) : all.mem c = true := rfl

/-- The set of one character. -/
def single (c : Char) : CharSet := .interval c.toNat c.toNat

@[simp] theorem mem_single (c d : Char) : (single c).mem d = decide (d = c) := by
  rw [Bool.eq_iff_iff]
  simp only [single, mem, Bool.and_eq_true, decide_eq_true_eq]
  constructor
  · intro ⟨h, h'⟩
    exact Char.toNat_inj.mp (Nat.le_antisymm h' h)
  · rintro rfl
    exact ⟨Nat.le_refl _, Nat.le_refl _⟩

/-- The union of several sets. -/
def unionAll (sets : List CharSet) : CharSet := sets.foldr .union .none

@[simp] theorem mem_unionAll (sets : List CharSet) (c : Char) :
    (unionAll sets).mem c = sets.any (·.mem c) := by
  induction sets with
  | nil => rfl
  | cons a r ih => simpa [unionAll] using congrArg (a.mem c || ·) ih

/-- The characters of some listed intervals. -/
def ofIntervals (items : List (Nat × Nat)) : CharSet :=
  unionAll (items.map fun i => .interval i.1 i.2)

/-- The characters in exactly one of two sets. -/
def symmDiff (a b : CharSet) : CharSet := .union (.diff a b) (.diff b a)

/-- The code points where membership can change: any other is in the set just if the one before it
is. -/
def cuts : CharSet → List Nat
  | .none => []
  | .interval first last => [first, last + 1]
  | .table members => members.toList.flatMap fun (first, last) => [first, last + 1]
  | .layered basic other => 0x80 :: (basic.cuts ++ other.cuts)
  | .union a b => a.cuts ++ b.cuts
  | .inter a b => a.cuts ++ b.cuts
  | .diff a b => a.cuts ++ b.cuts
  | .compl a => a.cuts
  | .anyCase a => a.cuts ++ Casing.cuts

/-- Characters that tell the whole set: the first of all, the first one after the surrogates, and those
where membership can change. A number that is no character counts as the first of all. -/
def samples (s : CharSet) : List Char := (0 :: 0xe000 :: s.cuts).map Char.ofNat

/-- A character of the set, if there is one. -/
def member? (s : CharSet) : Option Char := s.samples.find? s.mem

/-- Whether two sets have the same characters. -/
def sameMembers (a b : CharSet) : Bool := (a.samples ++ b.samples).all fun c => a.mem c == b.mem c

/-- The only character of the set, if it has just one. -/
def only? (s : CharSet) : Option Char := s.member?.filter fun c => s.sameMembers (.single c)

/-- Whether the set runs across the surrogates, the code points between U+D7FF and U+E000 that are no
characters. Of two intervals that end and begin there none does, so they stay two pieces. -/
def bridges : CharSet → Bool
  | .none => false
  | .interval first last => first ≤ 0xd800 && 0xd800 ≤ last
  | .table members => members.mem 0xd800
  | .layered _ other => other.bridges
  | .union a b => a.bridges || b.bridges
  | .inter a b => a.bridges && b.bridges
  | .diff a b => a.bridges && !b.mem '\ud7ff' && !b.mem '\ue000'
  | .compl a => !a.mem '\ud7ff' && !a.mem '\ue000'
  | .anyCase a => a.bridges

/-- Whether two sets are alike: whether they have the same characters in the same pieces. -/
def same (a b : CharSet) : Bool := a.sameMembers b && a.bridges == b.bridges

/-- The complement of a set as patterns have it: what lies between the pieces of the set. The two
characters beside the surrogates lie between two pieces that meet there. -/
def complement (s : CharSet) : CharSet :=
  if s.mem '\ud7ff' && s.mem '\ue000' && !s.bridges then
    .union (.compl s) (.interval 0xd7ff 0xe000)
  else .compl s

/-- Apart from the two characters beside the surrogates, the complement has what the set lacks. -/
theorem mem_complement (s : CharSet) {c : Char} (h : c ≠ '\ud7ff') (h' : c ≠ '\ue000') :
    s.complement.mem c = !s.mem c := by
  have outside : (interval 0xd7ff 0xe000).mem c = false := by
    have hc : c.toNat < 0xd800 ∨ 0xdfff < c.toNat ∧ c.toNat < 0x110000 := c.valid
    have hl : c.toNat ≠ 0xd7ff := fun e => h (Char.toNat_inj.mp e)
    have hr : c.toNat ≠ 0xe000 := fun e => h' (Char.toNat_inj.mp e)
    simp only [mem, Bool.and_eq_false_iff, decide_eq_false_iff_not]
    omega
  unfold complement
  split
  · rw [mem_union, outside, Bool.or_false, mem_compl]
  · rw [mem_compl]

/-- White space. -/
def space : CharSet :=
  ofIntervals [(0x09, 0x0d), (0x20, 0x20), (0x85, 0x85), (0xa0, 0xa0), (0x1680, 0x1680),
    (0x2000, 0x200a), (0x2028, 0x2029), (0x202f, 0x202f), (0x205f, 0x205f), (0x3000, 0x3000)]

/-- The set of white space is the white space that trimming drops. -/
theorem mem_space (c : Char) : space.mem c = Text.isBlank c := by
  rw [Bool.eq_iff_iff]
  simp [space, ofIntervals, Text.isBlank, mem]
  omega

end CharSet
end RowQuery.Unicode
