import RowQuery.Proofs.Regex.Element
import RowQuery.Proofs.Regex.Reading

/-!
Patterns that are well formed.

* `Reader.finish?`: what a reader makes of the rest of its pattern, whatever the number of steps.
* `Pattern.WellFormed`, `Pattern.names`, `Pattern.depth`: what decides whether a pattern can be compiled.
* `Pattern.node`, `node_eq_of_compile`: the expression that a pattern is read as.
* `isSome_parse?_iff`: a pattern stands for an expression if it is well formed and not nested too deep.
* `Outline`, `Outline.isSome_close?`: what a reader needs to know of what it has read.
* `read?_escape`, `contained_escape`: escaped texts are well formed and keep to their groups.
-/
namespace RowQuery.Regex

variable {n : Nat} {c : Char} {s s' r u : List Char} {reader next last : Reader}

/-! ## Readers without a number of steps -/

/-- A step reads an element under the flags that hold, and follows it. -/
theorem step?_eq_some_iff :
    reader.step? c r = some (next, s) ↔
      ∃ move, reader.level.flags.move? c r = some (move, s) ∧ reader.follow? move = some next := by
  constructor
  · intro h
    obtain ⟨⟨move, _⟩, hmove, h⟩ := Option.bind_eq_some_iff.mp h
    obtain ⟨_, hfollow, he⟩ := Option.bind_eq_some_iff.mp h
    cases he
    exact ⟨move, hmove, hfollow⟩
  · rintro ⟨move, hmove, hfollow⟩
    rw [Reader.step?, hmove]
    simp only [Option.bind_eq_bind, Option.bind_some, hfollow]
    rfl

/-- The element that a step reads leaves an end of the pattern. -/
theorem suffix_of_step? (h : reader.step? c r = some (next, s)) : s <:+ r := by
  obtain ⟨move, hmove, -⟩ := step?_eq_some_iff.mp h
  exact (localMove_move? _ c r move s hmove).1

/-- Steps beyond the length of the pattern are not taken. -/
theorem run_of_length_lt (h : s.length < n) : reader.run n s = reader.run (s.length + 1) s := by
  induction n using Nat.strongRecOn generalizing reader s with
  | ind n ih =>
    obtain ⟨m, rfl⟩ : ∃ m, n = m + 1 := ⟨n - 1, by omega⟩
    rw [Reader.run, Reader.run]
    cases hs : skip reader.level.flags.ignoreSpace s with
    | nil => rfl
    | cons c r =>
      have hr : (c :: r).length ≤ s.length := (hs ▸ skip_suffix _ s).length_le
      rw [List.length_cons] at hr
      simp only
      cases hstep : reader.step? c r with
      | none => rfl
      | some p =>
        have hrest := (suffix_of_step? (show _ = some (p.1, p.2) from hstep)).length_le
        simp only [Option.bind_eq_bind, Option.bind_some]
        rw [ih m (by omega) (by omega), ← ih s.length (by omega) (by omega)]

/-- The reader at the end of the rest of a pattern. -/
def Reader.finish? (reader : Reader) (s : List Char) : Option Reader := reader.run (s.length + 1) s

theorem finish?_of_skip_nil (hs : skip reader.level.flags.ignoreSpace s = []) :
    reader.finish? s = some reader := by
  rw [Reader.finish?, Reader.run, hs]

theorem finish?_of_skip_cons (hs : skip reader.level.flags.ignoreSpace s = c :: r) :
    reader.finish? s = (reader.step? c r).bind fun p => p.1.finish? p.2 := by
  have hr : (c :: r).length ≤ s.length := (hs ▸ skip_suffix _ s).length_le
  rw [List.length_cons] at hr
  rw [Reader.finish?, Reader.run, hs]
  simp only
  cases hstep : reader.step? c r with
  | none => rfl
  | some p =>
    have hrest := (suffix_of_step? (show _ = some (p.1, p.2) from hstep)).length_le
    exact run_of_length_lt (by omega)

theorem Reads.finish?_eq (h : Reads n reader s next s') : reader.finish? s = next.finish? s' := by
  induction h with
  | refl => rfl
  | step hs hstep _ ih => rw [finish?_of_skip_cons hs, hstep, Option.bind_some, ih]

theorem reads_of_finish? (h : reader.finish? s = some last) :
    ∃ n s', Reads n reader s last s' ∧ skip last.level.flags.ignoreSpace s' = [] :=
  reads_of_run_eq_some h

/-! ## What decides whether a pattern can be compiled -/

/-- The reader at the end of the rest of a pattern, if no group is left open. -/
def Reader.close? (reader : Reader) (s : List Char) : Option Reader :=
  (reader.finish? s).filter (·.opened.isEmpty)

theorem close?_eq_some_iff :
    reader.close? s = some last ↔ reader.finish? s = some last ∧ last.opened = [] := by
  simp [Reader.close?, Option.filter_eq_some_iff]

theorem Reads.close?_eq (h : Reads n reader s next s') : reader.close? s = next.close? s' := by
  rw [Reader.close?, h.finish?_eq, Reader.close?]

namespace Pattern

/-- The reader at the end of a pattern whose elements can all be read and whose groups are closed. -/
def read? (pattern : List Char) : Option Reader := Reader.start.close? pattern

/-- Each element of a pattern can be read, and each group is closed. -/
def WellFormed (pattern : List Char) : Prop := (read? pattern).isSome = true

instance (pattern : List Char) : Decidable (WellFormed pattern) :=
  inferInstanceAs (Decidable ((read? pattern).isSome = true))

/-- The names of the groups of a pattern. -/
def names (pattern : List Char) : List (List Char) := (read? pattern).elim [] (·.names)

/-- How deep a pattern is nested. -/
def depth (pattern : List Char) : Nat := (read? pattern).elim 0 (·.level.value.depth)

/-- The expression that a pattern is read as, however deep it is nested. -/
def node (pattern : List Char) : Node := (read? pattern).elim .empty (·.level.value.node)

end Pattern

/-- A pattern stands for an expression if it is well formed and not nested too deep. -/
theorem isSome_parse?_iff (p : List Char) :
    (Pattern.parse? p).isSome = true ↔ Pattern.WellFormed p ∧ Pattern.depth p ≤ depthLimit := by
  have hrun : Reader.start.run (p.length + 1) p = Reader.start.finish? p := rfl
  rw [Pattern.WellFormed, Pattern.depth, Pattern.read?, Reader.close?, Pattern.parse?, hrun]
  cases Reader.start.finish? p with
  | none => simp
  | some last =>
    by_cases ho : last.opened = []
    · simp [Option.filter, ho]
    · simp [Option.filter, ho]

theorem eq_node_of_parse? {p : List Char} {node : Node} (h : Pattern.parse? p = some node) :
    node = Pattern.node p := by
  obtain ⟨last, hrun, h⟩ := Option.bind_eq_some_iff.mp h
  simp only [Bool.and_eq_true, decide_eq_true_eq] at h
  split at h
  · next hend =>
    cases h
    have hread : Pattern.read? p = some last :=
      close?_eq_some_iff.mpr ⟨hrun, List.isEmpty_iff.mp hend.1⟩
    rw [Pattern.node, hread, Option.elim_some]
  · cases h

/-- A compiled pattern has the expression that the pattern stands for. -/
theorem parse?_of_compile {limit : Limit} {pattern : String} {regex : RowQuery.Regex}
    (h : compile limit pattern = .ok regex) : Pattern.parse? pattern.toList = some regex.node := by
  rw [compile] at h
  split at h
  · cases h
  · next node hnode =>
    split at h
    · cases h
      exact hnode
    · cases h

/-- A compiled pattern has the expression that it is read as. -/
theorem node_eq_of_compile {limit : Limit} {pattern : String} {regex : RowQuery.Regex}
    (h : compile limit pattern = .ok regex) : regex.node = Pattern.node pattern.toList :=
  eq_node_of_parse? (parse?_of_compile h)

/-! ## What a reader has to know of what it has read -/

/-- A reader has the flags of another and stands after a part that can be repeated if the other one does.
The groups that are open were begun under the same flags, and the names of the first are among those of
the other. -/
structure Outline (a b : Reader) : Prop where
  flags : a.level.flags = b.level.flags
  last : a.level.items.head?.map (·.repeatable) = b.level.items.head?.map (·.repeatable)
  opened : a.opened.map (·.outer.flags) = b.opened.map (·.outer.flags)
  names : a.names ⊆ b.names

namespace Outline

variable {a b b' : Reader}

theorem push (h : Outline a b) (node node' : Node) (depth depth' : Nat) :
    Outline (a.push node depth) (b.push node' depth') :=
  ⟨h.flags, rfl, h.opened, h.names⟩

theorem openGroup (h : Outline a b) (index index' : Option Nat) (flags : Flags) :
    Outline (a.openGroup index flags) (b.openGroup index' flags) :=
  ⟨rfl, rfl, by simp [Reader.openGroup, h.flags, h.opened], h.names⟩

theorem openCapture (h : Outline a b) : Outline a.openCapture b.openCapture := by
  refine ⟨h.flags, rfl, ?_, h.names⟩
  simp [Reader.openCapture, Reader.openGroup, h.flags, h.opened]

/-- What can be done after some elements can be done where less has been read. -/
theorem follow? (h : Outline a b) {move : Move} (hb : b.follow? move = some b') :
    ∃ a', a.follow? move = some a' ∧ Outline a' b' := by
  -- A name, the end of a group and a repetition ask something of what was read; the rest can always be
  -- followed.
  cases move with
  | push node depth =>
    cases hb
    exact ⟨_, rfl, h.push node node depth depth⟩
  | capture =>
    cases hb
    exact ⟨_, rfl, h.openCapture⟩
  | named name =>
    simp only [Reader.follow?, Reader.openNamed?] at hb ⊢
    split at hb
    · cases hb
    · next hname =>
      cases hb
      have hname' : ¬ a.names.contains name = true := by
        intro hmem
        rw [List.contains_iff_mem] at hmem hname
        exact hname (h.names hmem)
      refine ⟨_, if_neg hname', Outline.openCapture ⟨h.flags, h.last, h.opened, ?_⟩⟩
      exact List.cons_subset_cons name h.names
  | group flags =>
    cases hb
    exact ⟨_, rfl, h.openGroup none none flags⟩
  | «switch» flags =>
    cases hb
    exact ⟨_, rfl, rfl, rfl, h.opened, h.names⟩
  | close =>
    have hopened := h.opened
    simp only [Reader.follow?, Reader.closeGroup?] at hb ⊢
    cases hbo : b.opened with
    | nil =>
      rw [hbo] at hb
      cases hb
    | cons opening opened =>
      rw [hbo, List.map_cons] at hopened
      obtain ⟨opening', opened', hao, hflags, hrest⟩ := List.map_eq_cons_iff.mp hopened
      simp only [hbo] at hb
      cases hb
      simp only [hao]
      exact ⟨_, rfl, hflags, rfl, hrest, h.names⟩
  | branch =>
    cases hb
    exact ⟨_, rfl, h.flags, rfl, h.opened, h.names⟩
  | again min max lazy =>
    have hlast := h.last
    simp only [Reader.follow?, Reader.repeatLast?] at hb ⊢
    cases hbi : b.level.items with
    | nil =>
      rw [hbi] at hb
      cases hb
    | cons item items =>
      simp only [hbi] at hb
      rw [hbi] at hlast
      obtain ⟨item', hitem', hrepeatable⟩ := Option.map_eq_some_iff.mp hlast
      obtain ⟨items', hai⟩ := List.head?_eq_some_iff.mp hitem'
      simp only [hai]
      split at hb
      · next hr =>
        cases hb
        rw [hrepeatable, if_pos hr]
        exact ⟨_, rfl, h.flags, rfl, h.opened, h.names⟩
      · cases hb

theorem step? (h : Outline a b) (hb : b.step? c r = some (b', s)) :
    ∃ a', a.step? c r = some (a', s) ∧ Outline a' b' := by
  obtain ⟨move, hmove, hfollow⟩ := step?_eq_some_iff.mp hb
  obtain ⟨a', ha, h'⟩ := h.follow? hfollow
  exact ⟨a', step?_eq_some_iff.mpr ⟨move, h.flags ▸ hmove, ha⟩, h'⟩

theorem reads (h : Outline a b) (hb : Reads n b s b' s') :
    ∃ a', Reads n a s a' s' ∧ Outline a' b' := by
  induction hb generalizing a with
  | refl => exact ⟨a, .refl, h⟩
  | step hs hstep _ ih =>
    obtain ⟨a₁, ha, h₁⟩ := h.step? hstep
    obtain ⟨a', hr, h'⟩ := ih h₁
    exact ⟨a', .step (h.flags ▸ hs) ha hr, h'⟩

/-- A pattern that can be read to its end after some elements can be read where less has been read. -/
theorem isSome_close? (h : Outline a b) (hb : (b.close? s).isSome = true) :
    (a.close? s).isSome = true := by
  obtain ⟨last, hlast⟩ := Option.isSome_iff_exists.mp hb
  obtain ⟨hfinish, hopened⟩ := close?_eq_some_iff.mp hlast
  obtain ⟨n, s', hr, hs⟩ := reads_of_finish? hfinish
  obtain ⟨a', hra, h'⟩ := h.reads hr
  have ho : a'.opened = [] := by
    have := h'.opened
    rwa [hopened, List.map_nil, List.map_eq_nil_iff] at this
  rw [Option.isSome_iff_exists]
  refine ⟨a', close?_eq_some_iff.mpr ⟨?_, ho⟩⟩
  rw [hra.finish?_eq, finish?_of_skip_nil (h'.flags ▸ hs)]

end Outline

/-! ## Patterns that go on with a closing parenthesis -/

theorem flags_of_isOpenEnded {move : Move} (hm : move.isOpenEnded = true)
    (h : reader.follow? move = some next) : next.level.flags = reader.level.flags := by
  cases move with
  | capture =>
    cases h
    rfl
  | again min max lazy =>
    simp only [Reader.follow?, Reader.repeatLast?] at h
    split at h
    · cases h
    · split at h
      · cases h
        rfl
      · cases h
  | _ => cases hm

/-- A pattern that is read to its end is read the same if a closing parenthesis and more follow. -/
theorem Reads.append (h : Reads n reader s last s')
    (hs : skip last.level.flags.ignoreSpace s' = []) (hu : Guarded last.level.flags.ignoreSpace s' u) :
    Reads n reader (s ++ ')' :: u) last (s' ++ ')' :: u) := by
  induction h with
  | refl => exact .refl
  | @step n reader next last s r s₁ s' c hskip hstep hrest ih =>
    obtain ⟨move, hmove, hfollow⟩ := step?_eq_some_iff.mp hstep
    have hguard : move.isOpenEnded = true → Guarded reader.level.flags.ignoreSpace s₁ u := by
      intro hm
      rw [← flags_of_isOpenEnded hm hfollow]
      -- Either the pattern ends here, or there is more that counts.
      cases hrest with
      | refl => exact hu
      | step hskip' _ _ =>
        intro hnil
        rw [hskip'] at hnil
        cases hnil
    have hmove' := (localMove_move? _ c r move s₁ hmove).2 u hguard
    exact .step (skip_append hskip _) (step?_eq_some_iff.mpr ⟨move, hmove', hfollow⟩) (ih hs hu)

/-- A pattern that does not end in a comment is followed by what follows it. -/
theorem exists_reads_append {p : List Char} (h : Pattern.WellFormed p)
    (hc : ¬ Pattern.WellFormed (p ++ [')'])) :
    ∃ last, Pattern.read? p = some last ∧
      ∀ u, ∃ n s, Reads n .start (p ++ ')' :: u) last s ∧
        skip last.level.flags.ignoreSpace s = ')' :: u := by
  obtain ⟨last, hlast⟩ := Option.isSome_iff_exists.mp h
  obtain ⟨hfinish, hopened⟩ := close?_eq_some_iff.mp hlast
  obtain ⟨n, s', hr, hs⟩ := reads_of_finish? hfinish
  refine ⟨last, hlast, fun u => ?_⟩
  rcases skip_parenthesis hs with hskip | hskip
  · exact ⟨n, _, hr.append hs fun _ => by rw [hskip u]; simp, hskip u⟩
  · refine absurd ?_ hc
    have hra := hr.append hs (u := []) fun _ => by rw [hskip]; simp
    rw [Pattern.WellFormed, Pattern.read?, hra.close?_eq, Reader.close?, finish?_of_skip_nil hskip]
    simp [Option.filter, hopened]

/-- A pattern keeps to its group: no text after the group makes a well-formed pattern of one that is
not, and no comment at the end of the pattern takes the parenthesis that closes the group. -/
structure Contained (p : List Char) : Prop where
  closed : ∀ s, Pattern.WellFormed (grouped p ++ s) → Pattern.WellFormed p
  comment : Pattern.WellFormed p → ¬ Pattern.WellFormed (p ++ [')'])

/-! ## Escaped texts -/

theorem read?_escape (s : List Char) :
    Pattern.read? (escape s) = some (Reader.start.pushAll (s.map .ofChar)) := by
  have h : Reads s.length .start (escape s) (Reader.start.pushAll (s.map .ofChar)) [] := by
    simpa using Reads.escape rfl s []
  rw [Pattern.read?, h.close?_eq]
  rfl

theorem wellFormed_escape (s : List Char) : Pattern.WellFormed (escape s) := by
  rw [Pattern.WellFormed, read?_escape]
  rfl

theorem contained_escape (s : List Char) : Contained (escape s) := by
  refine ⟨fun _ _ => wellFormed_escape s, fun _ => ?_⟩
  have h : Reads s.length .start (escape s ++ [')']) (Reader.start.pushAll (s.map .ofChar)) [')'] :=
    Reads.escape rfl s [')']
  -- There is no group that the parenthesis could close.
  have hend : (Reader.start.pushAll (s.map .ofChar)).close? [')'] = none := rfl
  rw [Pattern.WellFormed, Pattern.read?, h.close?_eq, hend]
  simp

end RowQuery.Regex
