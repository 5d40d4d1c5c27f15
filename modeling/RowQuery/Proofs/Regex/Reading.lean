import RowQuery.Regex.Basic

/-!
Patterns read step by step.

* `Reads`: a number of steps that a reader takes through a pattern.
* `reads_of_run_eq_some`: a run that comes to an end has taken such steps to the end of its pattern.
* `Reads.escape`: an escaped text is read as its characters.
* `joined`: a pattern put together from several, each in a group of its own.
* `Reads.openGroup`, `Reads.closeGroup`, `Reads.gap`: what stands around the patterns in it.
-/
namespace RowQuery.Regex

/-- A number of steps that a reader takes through a pattern, from one state and rest of the pattern
to another. -/
inductive Reads : Nat → Reader → List Char → Reader → List Char → Prop
  | refl {reader : Reader} {s : List Char} : Reads 0 reader s reader s
  | step {n : Nat} {reader next last : Reader} {s r s' s'' : List Char} {c : Char}
      (hs : skip reader.level.flags.ignoreSpace s = c :: r)
      (hstep : reader.step? c r = some (next, s')) (h : Reads n next s' last s'') :
      Reads (n + 1) reader s last s''

namespace Reads

variable {n m : Nat} {reader next last : Reader} {s s' s'' : List Char}

theorem trans (h : Reads n reader s next s') (h' : Reads m next s' last s'') :
    Reads (n + m) reader s last s'' := by
  induction h with
  | refl => rwa [Nat.zero_add]
  | step hs hstep _ ih =>
    rw [Nat.add_right_comm]
    exact .step hs hstep (ih h')

/-- One step where white space counts. -/
theorem one {c : Char} {r : List Char} (hf : reader.level.flags.ignoreSpace = false)
    (h : reader.step? c r = some (next, s)) : Reads 1 reader (c :: r) next s :=
  .step (by rw [hf]; rfl) h .refl

end Reads

/-- A run that comes to an end has taken steps to the end of its pattern. -/
theorem reads_of_run_eq_some {n : Nat} {reader last : Reader} {s : List Char}
    (h : reader.run n s = some last) :
    ∃ m s', Reads m reader s last s' ∧ skip last.level.flags.ignoreSpace s' = [] := by
  induction n generalizing reader s with
  | zero => simp [Reader.run] at h
  | succ n ih =>
    rw [Reader.run] at h
    split at h
    · next hs =>
      cases h
      exact ⟨0, s, .refl, hs⟩
    · next c r hs =>
      obtain ⟨⟨next, rest⟩, hstep, h⟩ := Option.bind_eq_some_iff.mp h
      obtain ⟨m, s', hr, he⟩ := ih h
      exact ⟨m + 1, s', .step hs hstep hr, he⟩

/-! ## Escaped texts -/

theorem escape?_of_isMeta {c : Char} (h : isMeta c = true) (r : List Char) :
    escape? false (c :: r) = some (.literal c false, r) := by
  have hx : (c = 'x' ∨ c = 'u') ∨ c = 'U' → isMeta c = false := by
    rintro ((rfl | rfl) | rfl) <;> rfl
  have hp : c = 'p' ∨ c = 'P' → isMeta c = false := by
    rintro (rfl | rfl) <;> rfl
  have hx' : ¬((c = 'x' ∨ c = 'u') ∨ c = 'U') := fun he => by simp [hx he] at h
  have hp' : ¬(c = 'p' ∨ c = 'P') := fun he => by simp [hp he] at h
  simp only [escape?, Bool.or_eq_true, decide_eq_true_eq, hx', hp', if_false, isEscapable, h,
    Bool.true_or, if_true]

/-- A character written with a backslash is read as itself. -/
theorem step?_backslash {reader : Reader} (hf : reader.level.flags = .default) {c : Char}
    (h : isMeta c = true) (r : List Char) :
    reader.step? '\\' (c :: r) = some (reader.push (.char c) 0, r) := by
  simp [Reader.step?, Flags.move?, Flags.escaped?, Flags.primitive?, Reader.follow?, hf,
    Flags.default, escape?_of_isMeta h, Primitive.node?, Flags.literal?]

/-- A character without a meaning of its own is read as itself. -/
theorem step?_of_not_isMeta {reader : Reader} (hf : reader.level.flags = .default) {c : Char}
    (h : isMeta c = false) (r : List Char) :
    reader.step? c r = some (reader.push (.char c) 0, r) := by
  have hne : ∀ d, isMeta d = true → c ≠ d := by
    rintro d hd rfl
    simp [h] at hd
  simp [Reader.step?, Flags.move?, Flags.primitive?, Reader.follow?, hf, Flags.default,
    Primitive.node?, Flags.literal?, hne '(' rfl, hne ')' rfl,
    hne '|' rfl, hne '[' rfl, hne '?' rfl, hne '*' rfl, hne '+' rfl, hne '\x7b' rfl, hne '\\' rfl,
    hne '.' rfl, hne '^' rfl, hne '$' rfl]

/-- The part that a character makes. -/
def Item.ofChar (c : Char) : Item := ⟨.char c, 0, true⟩

/-- A reader with some more parts, given in their order. -/
def Reader.pushAll (reader : Reader) (items : List Item) : Reader :=
  { reader with level := { reader.level with items := items.reverse ++ reader.level.items } }

/-- An escaped text is read as its characters. -/
theorem Reads.escape {reader : Reader} (hf : reader.level.flags = .default) (s rest : List Char) :
    Reads s.length reader (Regex.escape s ++ rest) (reader.pushAll (s.map .ofChar)) rest := by
  induction s generalizing reader with
  | nil => exact .refl
  | cons c s ih =>
    have hpush : Reads 1 reader (Regex.escape (c :: s) ++ rest) (reader.push (.char c) 0)
        (Regex.escape s ++ rest) := by
      have hx : reader.level.flags.ignoreSpace = false := by rw [hf]; rfl
      cases hc : isMeta c with
      | true => simpa [Regex.escape, hc] using Reads.one hx (step?_backslash hf hc _)
      | false => simpa [Regex.escape, hc] using Reads.one hx (step?_of_not_isMeta hf hc _)
    have := hpush.trans (@ih (reader.push (.char c) 0) hf)
    rw [List.length_cons, Nat.add_comm]
    simpa [Reader.pushAll, Reader.push, Level.push, Item.ofChar] using this

/-! ## Patterns put together from several -/

/-- A pattern in a group that does not keep its text. -/
def grouped (pattern : List Char) : List Char := '(' :: '?' :: ':' :: (pattern ++ [')'])

/-- Patterns that are to match in their order, with a character or more between one and the next. -/
def joined (patterns : List (List Char)) : List Char :=
  ['.', '+'].intercalate (patterns.map grouped)

theorem joined_cons_cons (p q : List Char) (ps : List (List Char)) :
    joined (p :: q :: ps) = grouped p ++ '.' :: '+' :: joined (q :: ps) := by
  simp [joined]

/-- One character or more that are no line ends, as a part. -/
def Item.gap : Item := ⟨.iterate (.set (.compl (.single '\n')) false) 1 none true, 1, true⟩

/-- What has been read in a group that does not keep its text, as a part. -/
def Item.ofGroup (inner : Measured) : Item := ⟨inner.node, inner.depth + 1, true⟩

theorem Reads.openGroup {reader : Reader} (hf : reader.level.flags = .default) (rest : List Char) :
    Reads 1 reader ('(' :: '?' :: ':' :: rest) (reader.openGroup none .default) rest := by
  refine .one (by rw [hf]; rfl) ?_
  simp [Reader.step?, Flags.move?, Reader.follow?, group?, specialGroup?, flagGroup?,
    hf, Flags.default, skip, flagsFrom?]

/-- The parenthesis that ends a group is read under any flags. -/
theorem Reads.closeGroup (reader : Reader) {level : Level} {opened : List Opening}
    (ho : reader.opened = ⟨level, none⟩ :: opened) (rest : List Char) :
    Reads 1 reader (')' :: rest)
      { reader with level := level.push (.ofGroup reader.level.value), opened } rest := by
  have hs : skip reader.level.flags.ignoreSpace (')' :: rest) = ')' :: rest := by
    cases reader.level.flags.ignoreSpace <;> rfl
  refine .step hs ?_ .refl
  simp [Reader.step?, Flags.move?, Reader.follow?, Reader.closeGroup?, ho, Item.ofGroup]

/-- What stands between two groups is read as a part of its own. -/
theorem Reads.gap {reader : Reader} (hf : reader.level.flags = .default) (rest : List Char) :
    Reads 2 reader ('.' :: '+' :: '(' :: rest) (reader.pushAll [.gap]) ('(' :: rest) := by
  have hx : reader.level.flags.ignoreSpace = false := by rw [hf]; rfl
  have hdot : reader.step? '.' ('+' :: '(' :: rest) =
      some (reader.push (.set (.compl (.single '\n')) false) 0, '+' :: '(' :: rest) := by
    simp [Reader.step?, Flags.move?, Flags.primitive?, Reader.follow?, hf, Flags.default,
      Primitive.node?, Flags.dot?]
  refine (Reads.one hx hdot).trans (Reads.one hx ?_)
  simp [Reader.step?, Flags.move?, repetition, Reader.follow?, Reader.push, Level.push,
    Reader.repeatLast?, laziness, skip, hf, Flags.default, Reader.pushAll, Item.gap, Node.repeated,
    Node.onlyEmpty]

end RowQuery.Regex
