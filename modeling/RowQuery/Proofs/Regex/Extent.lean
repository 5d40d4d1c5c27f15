import RowQuery.Proofs.Regex.Outcome

/-!
How far texts and runs of characters go.

* `Trail.advance`: a trail some characters further on.
* `Trail.takeText_eq`: a text goes on to its own end, if it comes next.
* `Node.outcomes_run`: a run of characters of a set goes on as far as they come next, then less and less far.
-/
namespace RowQuery.Regex

open Unicode (CharSet)

/-! ## Texts and runs -/

namespace Trail

@[simp] theorem rest_after (t : Trail) (c : Char) (r : List Char) :
    (t.after c r).place.rest = r := rfl

@[simp] theorem marks_after (t : Trail) (c : Char) (r : List Char) :
    (t.after c r).marks = t.marks := rfl

@[simp] theorem offset_after (t : Trail) (c : Char) (r : List Char) :
    (t.after c r).place.offset = t.place.offset + 1 := rfl

theorem take_of_mem {s : CharSet} {t : Trail} {c : Char} {r : List Char}
    (hr : t.place.rest = c :: r) (hc : s.mem c = true) : t.take s = [t.after c r] := by
  simp [take, hr, hc]

theorem take_of_not_mem {s : CharSet} {t : Trail} {c : Char} {r : List Char}
    (hr : t.place.rest = c :: r) (hc : s.mem c = false) : t.take s = [] := by
  simp [take, hr, hc]

theorem take_nil {s : CharSet} {t : Trail} (hr : t.place.rest = []) : t.take s = [] := by
  simp [take, hr]

/-- The trail `n` characters further on, or at the end of the text. -/
def advance (t : Trail) : Nat → Trail
  | 0 => t
  | n + 1 =>
    match t.place.rest with
    | [] => t
    | c :: r => (t.after c r).advance n

theorem advance_succ {t : Trail} {c : Char} {r : List Char} (h : t.place.rest = c :: r) (n : Nat) :
    t.advance (n + 1) = (t.after c r).advance n := by
  simp [advance, h]

@[simp] theorem rest_advance (t : Trail) (n : Nat) :
    (t.advance n).place.rest = t.place.rest.drop n := by
  induction n generalizing t with
  | zero => rfl
  | succ n ih =>
    cases h : t.place.rest with
    | nil => simp [advance, h]
    | cons c r => simp [advance_succ h, ih]

@[simp] theorem marks_advance (t : Trail) (n : Nat) : (t.advance n).marks = t.marks := by
  induction n generalizing t with
  | zero => rfl
  | succ n ih =>
    cases h : t.place.rest with
    | nil => simp [advance, h]
    | cons c r => simp [advance_succ h, ih]

theorem offset_advance {t : Trail} {n : Nat} (h : n ≤ t.place.rest.length) :
    (t.advance n).place.offset = t.place.offset + n := by
  induction n generalizing t with
  | zero => rfl
  | succ n ih =>
    cases hr : t.place.rest with
    | nil => simp [hr] at h
    | cons c r =>
      rw [advance_succ hr, ih (by simpa [hr] using h), offset_after]
      omega

/-- A text is taken if it comes next. -/
theorem takeText_eq (s : List Char) (t : Trail) :
    t.takeText s = if s <+: t.place.rest then [t.advance s.length] else [] := by
  induction s generalizing t with
  | nil => simp [takeText, advance]
  | cons c s ih =>
    cases hr : t.place.rest with
    | nil => simp [takeText, take_nil hr]
    | cons d r =>
      by_cases hd : d = c
      · subst hd
        rw [takeText, take_of_mem hr (by simp), List.flatMap_singleton, ih, rest_after,
          List.length_cons, advance_succ hr]
        simp
      · rw [takeText, take_of_not_mem hr (by simpa using hd)]
        simp [Ne.symm hd]

/-- Rounds of one character of a set: as many as come next, then fewer and fewer. -/
theorem upTo_take {s : CharSet} {n : Nat} {t : Trail} (h : t.left ≤ n) :
    upTo (take s) true n t =
      (List.range ((t.place.rest.takeWhile s.mem).length + 1)).reverse.map t.advance := by
  induction n generalizing t with
  | zero =>
    have hr : t.place.rest = [] := List.length_eq_zero_iff.mp (Nat.le_zero.mp h)
    simp [upTo, hr, advance]
  | succ n ih =>
    cases hr : t.place.rest with
    | nil => simp [upTo, take_nil hr, advance]
    | cons c r =>
      by_cases hc : s.mem c = true
      · have hleft : (t.after c r).left ≤ n := by
          simpa [left, hr] using h
        have hadvance : t.advance ∘ Nat.succ = (t.after c r).advance :=
          funext (advance_succ hr)
        rw [List.takeWhile_cons_of_pos hc, List.length_cons, List.range_succ_eq_map,
          List.reverse_cons, List.map_append, List.map_reverse, List.map_map, hadvance]
        simp [upTo, take_of_mem hr hc, ih hleft, advance]
      · have hc : s.mem c = false := by simpa using hc
        simp [upTo, take_of_not_mem hr hc, hc, advance]

end Trail

/-- One character or more of a set: as many as come next, then fewer and fewer. -/
theorem Node.outcomes_run (s : CharSet) (basic : Bool) (t : Trail) :
    (Node.iterate (.set s basic) 1 none true).outcomes t =
      (List.range (t.place.rest.takeWhile s.mem).length).reverse.map fun i => t.advance (i + 1) := by
  simp only [Node.outcomes, Trail.times, List.flatMap_singleton]
  cases hr : t.place.rest with
  | nil => simp [Trail.take_nil hr]
  | cons c r =>
    by_cases hc : s.mem c = true
    · have hadvance : (fun i => t.advance (i + 1)) = (t.after c r).advance :=
        funext (Trail.advance_succ hr)
      rw [Trail.take_of_mem hr hc, List.flatMap_singleton, Trail.upTo_take (Nat.le_refl _),
        List.takeWhile_cons_of_pos hc, hadvance]
      rfl
    · have hc : s.mem c = false := by simpa using hc
      simp [Trail.take_of_not_mem hr hc, hc]

end RowQuery.Regex
