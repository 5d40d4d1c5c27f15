import RowQuery.Regex.Flags

/-!
The characters of a pattern that count.

* `skip_append`: what comes first in a text comes first in a longer one.
* `significant_eq`, `significant_append`: the characters that count, one by one and in a longer text.
* `skip_parenthesis`: only a comment can hide a closing parenthesis.
-/
namespace RowQuery.Regex

variable {x : Bool} {c : Char} {s r : List Char}

/-- Whether a character is dropped, and if so, whether what follows it is part of a comment. -/
def dropped? (comment : Bool) (c : Char) : Option Bool :=
  if comment then some (c != '\n')
  else if Text.isBlank c then some false
  else if c = '#' then some true
  else none

theorem skipFrom_cons (comment : Bool) (c : Char) (r : List Char) :
    skipFrom comment (c :: r) = (dropped? comment c).elim (c :: r) (skipFrom · r) := by
  rw [skipFrom, dropped?]
  split
  · rfl
  · split
    · rfl
    · split <;> rfl

theorem significantFrom_cons (comment : Bool) (c : Char) (r : List Char) :
    significantFrom true comment (c :: r) =
      (dropped? comment c).elim ((c, r) :: significant true r) (significantFrom true · r) := by
  simp only [significantFrom, dropped?, Bool.true_and, decide_eq_true_eq]
  split
  · rfl
  · split
    · rfl
    · split <;> rfl

theorem skipFrom_suffix (comment : Bool) (s : List Char) : skipFrom comment s <:+ s := by
  induction s generalizing comment with
  | nil => exact List.suffix_refl _
  | cons c r ih =>
    rw [skipFrom_cons]
    cases dropped? comment c with
    | none => exact List.suffix_refl _
    | some b => exact (ih b).trans (List.suffix_cons c r)

theorem skip_suffix (x : Bool) (s : List Char) : skip x s <:+ s := by
  cases x with
  | true => exact skipFrom_suffix false s
  | false => exact List.suffix_refl s

theorem skipFrom_append {comment : Bool} (h : skipFrom comment s = c :: r) (t : List Char) :
    skipFrom comment (s ++ t) = c :: (r ++ t) := by
  induction s generalizing comment with
  | nil => cases h
  | cons d s ih =>
    rw [List.cons_append, skipFrom_cons]
    rw [skipFrom_cons] at h
    cases hd : dropped? comment d with
    | none =>
      rw [hd] at h
      cases h
      rfl
    | some b =>
      rw [hd] at h
      exact ih h

/-- What comes first in a text comes first in a longer one. -/
theorem skip_append (h : skip x s = c :: r) (t : List Char) :
    skip x (s ++ t) = c :: (r ++ t) := by
  cases x with
  | true => exact skipFrom_append h t
  | false =>
    rw [show s = c :: r from h]
    rfl

theorem suffix_of_skip (h : skip x s = c :: r) : r <:+ s :=
  (List.suffix_cons c r).trans (h ▸ skip_suffix x s)

/-- The characters that count are the first one and those after it. -/
theorem significantFrom_eq (comment : Bool) (s : List Char) :
    significantFrom true comment s =
      match skipFrom comment s with
      | [] => []
      | c :: r => (c, r) :: significant true r := by
  induction s generalizing comment with
  | nil => rfl
  | cons c r ih =>
    rw [significantFrom_cons, skipFrom_cons]
    cases dropped? comment c with
    | none => rfl
    | some b => exact ih b

theorem significant_eq (x : Bool) (s : List Char) :
    significant x s =
      match skip x s with
      | [] => []
      | c :: r => (c, r) :: significant x r := by
  cases x with
  | true => exact significantFrom_eq false s
  | false => cases s <;> rfl

theorem significant_of_skip (h : skip x s = c :: r) : significant x s = (c, r) :: significant x r := by
  rw [significant_eq, h]

/-- A character that counts, with more after it. -/
def extend (t : List Char) (p : Char × List Char) : Char × List Char := (p.1, p.2 ++ t)

/-- Induction over the characters of a text that count. -/
theorem significant_induction {P : List Char → Prop} (x : Bool)
    (hnil : ∀ s, skip x s = [] → P s) (hcons : ∀ s c r, skip x s = c :: r → P r → P s)
    (s : List Char) : P s := by
  induction hn : s.length using Nat.strongRecOn generalizing s with
  | ind n ih =>
    cases hs : skip x s with
    | nil => exact hnil s hs
    | cons c r =>
      have hlen := (hs ▸ skip_suffix x s : c :: r <:+ s).length_le
      rw [List.length_cons] at hlen
      exact hcons s c r hs (ih r.length (by omega) r rfl)

/-- The characters that count in a text do so in a longer one. -/
theorem significant_append (x : Bool) (s t : List Char) :
    ∃ more, significant x (s ++ t) = (significant x s).map (extend t) ++ more := by
  induction s using significant_induction x with
  | hnil s hs => exact ⟨_, by rw [significant_eq x s, hs]; rfl⟩
  | hcons s c r hs ih =>
    obtain ⟨more, ih⟩ := ih
    refine ⟨more, ?_⟩
    rw [significant_of_skip hs, significant_of_skip (skip_append hs t), ih]
    rfl

/-- A character that counts begins an end of the text. -/
theorem suffix_of_mem_significant (h : (c, r) ∈ significant x s) : c :: r <:+ s := by
  induction s using significant_induction x with
  | hnil s hs =>
    rw [significant_eq, hs] at h
    cases h
  | hcons s d s' hs ih =>
    rw [significant_of_skip hs] at h
    have hd : d :: s' <:+ s := hs ▸ skip_suffix x s
    rcases List.mem_cons.mp h with he | h
    · cases he
      exact hd
    · exact (ih h).trans ((List.suffix_cons d s').trans hd)

theorem takeWhile_cons_fst (p : Char → Bool) (q : Char × List Char) (l : List (Char × List Char)) :
    (q :: l).takeWhile (p ·.1) = if p q.1 then q :: l.takeWhile (p ·.1) else [] :=
  List.takeWhile_cons

/-- Characters with a property that are followed by one that counts end there in a longer text too. -/
theorem takeWhile_significant_append {p : Char → Bool}
    (h : ((significant x s).takeWhile (p ·.1)).getLast? = some (c, r)) (hr : skip x r ≠ [])
    (t : List Char) :
    (significant x (s ++ t)).takeWhile (p ·.1) =
      ((significant x s).takeWhile (p ·.1)).map (extend t) := by
  induction s using significant_induction x with
  | hnil s hs =>
    rw [significant_eq, hs] at h
    cases h
  | hcons s d s' hs ih =>
    rw [significant_of_skip hs, takeWhile_cons_fst] at h ⊢
    rw [significant_of_skip (skip_append hs t), takeWhile_cons_fst]
    by_cases hd : p d = true
    · rw [if_pos hd] at h ⊢
      rw [if_pos hd, List.map_cons]
      cases hw : (significant x s').takeWhile (p ·.1) with
      | nil =>
        -- The run ends here, and what comes next in the text is not of the run.
        rw [hw] at h
        obtain ⟨rfl, rfl⟩ : d = c ∧ s' = r := by simpa using h
        obtain ⟨e, r', he⟩ := List.exists_cons_of_ne_nil hr
        have hpe : ¬ p e = true := by
          intro hpe
          rw [significant_of_skip he, takeWhile_cons_fst, if_pos hpe] at hw
          cases hw
        rw [significant_of_skip (skip_append he t), takeWhile_cons_fst, if_neg hpe]
        rfl
      | cons q w =>
        rw [hw, List.getLast?_cons_cons, ← hw] at h
        rw [ih h, hw]
        rfl
    · rw [if_neg hd] at h
      cases h

/-- Where nothing is left, only a comment can hide a closing parenthesis. -/
theorem skip_parenthesis {x : Bool} (h : skip x s = []) :
    (∀ u, skip x (s ++ ')' :: u) = ')' :: u) ∨ skip x (s ++ [')']) = [] := by
  have key : ∀ (s : List Char) (comment : Bool), skipFrom comment s = [] →
      (∀ u, skipFrom comment (s ++ ')' :: u) = ')' :: u) ∨
        skipFrom comment (s ++ [')']) = [] := by
    intro s
    induction s with
    | nil =>
      intro comment _
      cases comment with
      | true => exact .inr rfl
      | false => exact .inl fun u => rfl
    | cons c s ih =>
      intro comment h
      rw [skipFrom_cons] at h
      simp only [List.cons_append, skipFrom_cons]
      -- A character that counts would be left, so this one is dropped.
      cases hd : dropped? comment c with
      | none =>
        rw [hd] at h
        cases h
      | some b =>
        rw [hd] at h
        exact ih b h
  cases x with
  | true => exact key s false h
  | false =>
    obtain rfl : s = [] := h
    exact .inl fun u => rfl

/-! ## Texts up to a character -/

theorem dropWhile_append_cons {p : Char → Bool} (h : s.dropWhile p = c :: r) (t : List Char) :
    (s ++ t).dropWhile p = c :: (r ++ t) := by
  induction s with
  | nil => cases h
  | cons d s ih =>
    rw [List.cons_append, List.dropWhile_cons]
    rw [List.dropWhile_cons] at h
    split at h
    · next hd => rw [if_pos hd, ih h]
    · next hd =>
      rw [if_neg hd]
      cases h
      rfl

theorem takeWhile_append_of_dropWhile {p : Char → Bool} (h : s.dropWhile p = c :: r)
    (t : List Char) : (s ++ t).takeWhile p = s.takeWhile p := by
  induction s with
  | nil => cases h
  | cons d s ih =>
    rw [List.cons_append, List.takeWhile_cons, List.takeWhile_cons]
    rw [List.dropWhile_cons] at h
    split at h
    · next hd => rw [if_pos hd, if_pos hd, ih h]
    · next hd => rw [if_neg hd, if_neg hd]

end RowQuery.Regex
