import Mathlib.Data.List.Forall2
import Mathlib.Data.List.Lattice
import RowQuery.Proofs.Regex.Shift
import RowQuery.Proofs.Regex.WellFormed

/-!
Patterns put together from several, each in a group of its own.

* `Reader.within`: a reader of a pattern, when the pattern is in a group.
* `Reads.within`: the group can be read as the pattern can, but for names that were used before it.
* `close?_grouped`: a pattern in a group of its own leaves one part more, and its names.
* `AfterGroups.exists_value`, `AfterGroups.depth_le_iff`: what patterns in groups come to, and how deep they
  are nested.
* `isSome_parse?_joined_iff`: patterns that keep to their groups make a pattern just if each of them is
  one, no two share the name of a group and none is nested too deep.
-/
namespace RowQuery.Regex

variable {n : Nat} {p u s s' : List Char} {base a a' next last : Reader} {ps : List (List Char)}

/-! ## A pattern in a group -/

/-- A group that is open, with the numbers of its groups raised. -/
def Opening.shift (k : Nat) (opening : Opening) : Opening :=
  ⟨opening.outer.shift k, opening.index.map (· + k)⟩

namespace Reader

/-- The reader in a group that was begun at `base`, where `a` stands in the pattern of the group: what was
open before the group is open around it, and the names and numbers used before it count too. -/
def within (base a : Reader) : Reader where
  level := a.level.shift base.captures
  opened := a.opened.map (.shift base.captures) ++ ⟨base.level, none⟩ :: base.opened
  captures := a.captures + base.captures
  names := a.names ++ base.names

theorem within_start (base : Reader) : base.within start = base.openGroup none .default := by
  simp [within, start, openGroup, Level.shift]

theorem within_push {node : Node} (h : node.Plain) (depth : Nat) :
    (base.within a).push node depth = base.within (a.push node depth) := by
  simp [within, push, Level.push, Level.shift, Item.shift, h base.captures]

theorem within_openGroup (index : Option Nat) (flags : Flags) :
    (base.within a).openGroup (index.map (· + base.captures)) flags =
      base.within (a.openGroup index flags) := by
  simp [within, openGroup, Level.shift, Opening.shift]

theorem within_openCapture : (base.within a).openCapture = base.within a.openCapture := by
  simp [within, openCapture, openGroup, Level.shift, Opening.shift, Nat.add_right_comm]

theorem within_switch (flags : Flags) : (base.within a).switch flags = base.within (a.switch flags) := rfl

theorem within_nextBranch : (base.within a).nextBranch = base.within a.nextBranch := by
  simp [within, nextBranch, Level.shift, Measured.ofItems_shift]

theorem closeGroup?_within (ha : a.closeGroup? = some a') :
    (base.within a).closeGroup? = some (base.within a') := by
  unfold closeGroup? at ha
  cases hao : a.opened with
  | nil =>
    rw [hao] at ha
    cases ha
  | cons opening opened =>
    rw [hao] at ha
    cases ha
    simp only [closeGroup?, within, hao, List.map_cons, List.cons_append, Level.value_shift]
    obtain ⟨outer, index⟩ := opening
    cases index with
    | none => rfl
    | some index => rfl

theorem repeatLast?_within {min : Nat} {max : Option Nat} {lazy : Bool}
    (ha : a.repeatLast? min max lazy = some a') :
    (base.within a).repeatLast? min max lazy = some (base.within a') := by
  unfold repeatLast? at ha
  cases hai : a.level.items with
  | nil =>
    rw [hai] at ha
    cases ha
  | cons item items =>
    simp only [hai] at ha
    split at ha
    · next hr =>
      cases ha
      have hr' : (item.shift base.captures).repeatable = true := hr
      simp only [repeatLast?, within, Level.shift, hai, List.map_cons, hr', if_true]
      simp [Item.shift, Node.repeated_shift]
    · cases ha

end Reader

/-- The name that an element gives to a group. -/
def Move.names : Move → List (List Char)
  | .named name => [name]
  | _ => []

theorem names_of_follow? {move : Move} (h : a.follow? move = some a') :
    a'.names = move.names ++ a.names := by
  cases move with
  | named name =>
    simp only [Reader.follow?, Reader.openNamed?] at h
    split at h
    · cases h
    · cases h
      rfl
  | close =>
    simp only [Reader.follow?, Reader.closeGroup?] at h
    split at h
    · cases h
    · cases h
      rfl
  | again min max lazy =>
    simp only [Reader.follow?, Reader.repeatLast?] at h
    split at h
    · cases h
    · split at h
      · cases h
        rfl
      · cases h
  | _ =>
    cases h
    rfl

theorem Reads.names_subset (h : Reads n a s a' s') : a.names ⊆ a'.names := by
  induction h with
  | refl => exact List.Subset.refl _
  | step _ hstep _ ih =>
    obtain ⟨move, -, hfollow⟩ := step?_eq_some_iff.mp hstep
    rw [names_of_follow? hfollow] at ih
    exact fun _ hn => ih (List.mem_append_right _ hn)

/-- What can be done in a pattern can be done in its group, unless it begins a group with a name that was
used before. -/
theorem follow?_within {move : Move} (hmove : move.Plain) (ha : a.follow? move = some a')
    (hd : a.names.Disjoint base.names) :
    a'.names.Disjoint base.names ∧ (base.within a).follow? move = some (base.within a') ∨
      ¬ a'.names.Disjoint base.names ∧ (base.within a).follow? move = none := by
  have hnames := names_of_follow? ha
  cases move with
  | push node depth =>
    cases ha
    exact .inl ⟨hd, congrArg some (Reader.within_push hmove depth)⟩
  | capture =>
    cases ha
    exact .inl ⟨hd, congrArg some Reader.within_openCapture⟩
  | named name =>
    simp only [Reader.follow?, Reader.openNamed?] at ha ⊢
    split at ha
    · cases ha
    · next hname =>
      cases ha
      rw [List.contains_iff_mem] at hname
      by_cases hbase : name ∈ base.names
      · refine .inr ⟨fun hd => hd List.mem_cons_self hbase, if_pos ?_⟩
        rw [List.contains_iff_mem]
        exact List.mem_append_right _ hbase
      · -- The name is new in the group too, and none of those used before it.
        have hname' : ¬ (base.within a).names.contains name = true := by
          rw [List.contains_iff_mem]
          exact fun h => (List.mem_append.mp h).elim hname hbase
        refine .inl ⟨List.disjoint_cons_left.mpr ⟨hbase, hd⟩, ?_⟩
        rw [if_neg hname']
        exact congrArg some (Reader.within_openCapture (a := { a with names := name :: a.names }))
  | group flags =>
    cases ha
    exact .inl ⟨hd, congrArg some (Reader.within_openGroup none flags)⟩
  | «switch» flags =>
    cases ha
    exact .inl ⟨hd, congrArg some (Reader.within_switch flags)⟩
  | close => exact .inl ⟨by rw [hnames]; exact hd, Reader.closeGroup?_within ha⟩
  | branch =>
    cases ha
    exact .inl ⟨hd, congrArg some Reader.within_nextBranch⟩
  | again min max lazy => exact .inl ⟨by rw [hnames]; exact hd, Reader.repeatLast?_within ha⟩

/-- What can be read of a pattern can be read of its group, unless a name in it was used before. -/
theorem Reads.within (ha : Reads n a s a' s') (hd : a.names.Disjoint base.names) :
    a'.names.Disjoint base.names ∧ Reads n (base.within a) s (base.within a') s' ∨
      ¬ a'.names.Disjoint base.names ∧ (base.within a).finish? s = none := by
  induction ha with
  | refl => exact .inl ⟨hd, .refl⟩
  | @step n a a₁ a' s r s₁ s' c hskip hstep hrest ih =>
    obtain ⟨move, hmove, hfollow⟩ := step?_eq_some_iff.mp hstep
    have hskip' : skip (base.within a).level.flags.ignoreSpace s = c :: r := hskip
    have hstep' : (base.within a).step? c r = ((base.within a).follow? move).map fun b => (b, s₁) := by
      rw [Reader.step?, show (base.within a).level.flags = a.level.flags from rfl, hmove]
      cases hb : (base.within a).follow? move <;> simp [hb]
    rcases follow?_within (plain_of_move? _ c r move s₁ hmove) hfollow hd with ⟨hd', hb⟩ | ⟨hclash, hb⟩
    · rw [hb, Option.map_some] at hstep'
      rcases ih hd' with ⟨hd', hr⟩ | ⟨hclash, hnone⟩
      · exact .inl ⟨hd', .step hskip' hstep' hr⟩
      · refine .inr ⟨hclash, ?_⟩
        rw [finish?_of_skip_cons hskip', hstep', Option.bind_some, hnone]
    · refine .inr ⟨fun hd => hclash fun name hn => hd (hrest.names_subset hn), ?_⟩
      rw [finish?_of_skip_cons hskip', hstep', hb]
      rfl

/-- A reader after a pattern in a group of its own. -/
structure AfterGroup (base : Reader) (p : List Char) (next : Reader) : Prop where
  level : next.level =
    base.level.push ⟨(Pattern.node p).shift base.captures, Pattern.depth p + 1, true⟩
  opened : next.opened = base.opened
  names : next.names = Pattern.names p ++ base.names

theorem AfterGroup.flags (h : AfterGroup base p next) : next.level.flags = base.level.flags := by
  rw [h.level]
  rfl

theorem close?_congr (h : skip a.level.flags.ignoreSpace s = skip a.level.flags.ignoreSpace s') :
    a.close? s = a.close? s' := by
  have hfinish : a.finish? s = a.finish? s' := by
    cases hs : skip a.level.flags.ignoreSpace s with
    | nil => rw [finish?_of_skip_nil hs, finish?_of_skip_nil (h ▸ hs)]
    | cons c r => rw [finish?_of_skip_cons hs, finish?_of_skip_cons (h ▸ hs)]
  rw [Reader.close?, Reader.close?, hfinish]

/-- A pattern in a group is read as by itself, unless a name in it was used before. -/
theorem close?_grouped (hf : base.level.flags = .default) (hp : Pattern.WellFormed p)
    (hc : ¬ Pattern.WellFormed (p ++ [')'])) (u : List Char) :
    ((Pattern.names p).Disjoint base.names ∧
      ∃ next, AfterGroup base p next ∧ base.close? (grouped p ++ u) = next.close? u) ∨
    ¬ (Pattern.names p).Disjoint base.names ∧ base.close? (grouped p ++ u) = none := by
  obtain ⟨last, hlast, hread⟩ := exists_reads_append hp hc
  obtain ⟨n, s, hr, hs⟩ := hread u
  have hnames : Pattern.names p = last.names := by rw [Pattern.names, hlast, Option.elim_some]
  have hdepth : Pattern.depth p = last.level.value.depth := by
    rw [Pattern.depth, hlast, Option.elim_some]
  have hnode : Pattern.node p = last.level.value.node := by
    rw [Pattern.node, hlast, Option.elim_some]
  have hopened : last.opened = [] := (close?_eq_some_iff.mp hlast).2
  have hopen : base.close? (grouped p ++ u) =
      (base.within .start).close? (p ++ ')' :: u) := by
    rw [Reader.within_start]
    simpa [grouped] using (Reads.openGroup hf (p ++ ')' :: u)).close?_eq
  rw [hnames, hopen]
  -- The pattern is read within the group as it is by itself; then comes the closing parenthesis.
  rcases hr.within (List.disjoint_nil_left base.names) with ⟨hd, hin⟩ | ⟨hclash, hnone⟩
  · have hskip : skip (base.within last).level.flags.ignoreSpace s =
        skip (base.within last).level.flags.ignoreSpace (')' :: u) := by
      rw [show (base.within last).level.flags = last.level.flags from rfl, hs]
      cases last.level.flags.ignoreSpace <;> rfl
    have hin' : (base.within last).opened = ⟨base.level, none⟩ :: base.opened := by
      rw [Reader.within, hopened]
      rfl
    have hvalue : Item.ofGroup (base.within last).level.value =
        ⟨(Pattern.node p).shift base.captures, Pattern.depth p + 1, true⟩ := by
      rw [hnode, hdepth, Reader.within, Level.value_shift]
      rfl
    have hclose := (Reads.closeGroup (base.within last) hin' u).close?_eq
    rw [hvalue, ← close?_congr hskip, ← hin.close?_eq] at hclose
    refine .inl ⟨hd, _, ?_, hclose⟩
    exact ⟨rfl, rfl, by rw [hnames]; rfl⟩
  · refine .inr ⟨hclash, ?_⟩
    rw [Reader.close?, hnone]
    rfl

/-- A group with more after it that can be read in some place can be read at the start. -/
theorem wellFormed_grouped_append (hf : base.level.flags = .default) (ho : base.opened = [])
    (h : (base.close? (grouped p ++ u)).isSome = true) : Pattern.WellFormed (grouped p ++ u) := by
  have hopen : ∀ a : Reader, a.level.flags = .default → a.close? (grouped p ++ u) =
      (a.openGroup none .default).close? (p ++ ')' :: u) := by
    intro a ha
    simpa [grouped] using (Reads.openGroup ha (p ++ ')' :: u)).close?_eq
  have hout : Outline (Reader.start.openGroup none .default) (base.openGroup none .default) := by
    refine ⟨rfl, rfl, ?_, List.nil_subset _⟩
    simp [Reader.openGroup, Reader.start, ho, hf]
  rw [hopen base hf] at h
  rw [Pattern.WellFormed, Pattern.read?, hopen .start rfl]
  exact hout.isSome_close? h

/-- A pattern that keeps to its group, when its group and what follows can be read. -/
theorem afterGroup_of_close? (hf : base.level.flags = .default) (ho : base.opened = [])
    (hp : Contained p) (h : base.close? (grouped p ++ u) = some last) :
    Pattern.WellFormed p ∧ (Pattern.names p).Disjoint base.names ∧
      ∃ next, AfterGroup base p next ∧ next.close? u = some last := by
  have hwf := hp.closed u (wellFormed_grouped_append hf ho (by rw [h]; rfl))
  rcases close?_grouped hf hwf (hp.comment hwf) u with ⟨hd, next, hnext, heq⟩ | ⟨-, hnone⟩
  · exact ⟨hwf, hd, next, hnext, by rw [← heq, h]⟩
  · rw [hnone] at h
    cases h

/-! ## Patterns in groups one after another -/

/-- A reader after several patterns, each in a group of its own, with gaps between them. -/
inductive AfterGroups : Reader → List (List Char) → Reader → Prop
  | one {base last : Reader} {p : List Char} (h : AfterGroup base p last) : AfterGroups base [p] last
  | cons {base next last : Reader} {p q : List Char} {ps : List (List Char)}
      (h : AfterGroup base p next) (hr : AfterGroups (next.pushAll [.gap]) (q :: ps) last) :
      AfterGroups base (p :: q :: ps) last

/-- The names used before and the names in some patterns are different. -/
def Apart (used : List (List Char)) (ps : List (List Char)) : Prop :=
  (used :: ps.map Pattern.names).Pairwise List.Disjoint

theorem apart_cons_iff {used : List (List Char)} :
    Apart used (p :: ps) ↔
      (Pattern.names p).Disjoint used ∧ Apart (Pattern.names p ++ used) ps := by
  simp only [Apart, List.map_cons, List.pairwise_cons, List.mem_cons, forall_eq_or_imp,
    List.disjoint_append_left]
  constructor
  · rintro ⟨⟨hd, hused⟩, hp, hps⟩
    exact ⟨hd.symm, fun l hl => ⟨hp l hl, hused l hl⟩, hps⟩
  · rintro ⟨hd, hl, hps⟩
    exact ⟨⟨hd.symm, fun l h => (hl l h).2⟩, fun l h => (hl l h).1, hps⟩

theorem joined_eq_cons (p : List Char) (ps : List (List Char)) :
    ∃ more, joined (p :: ps) = '(' :: more := by
  cases ps with
  | nil => exact ⟨_, by simp [joined, grouped]; rfl⟩
  | cons q ps => exact ⟨_, joined_cons_cons p q ps⟩

theorem close?_gap (hf : next.level.flags = .default) (p : List Char) (ps : List (List Char)) :
    next.close? ('.' :: '+' :: joined (p :: ps)) =
      (next.pushAll [.gap]).close? (joined (p :: ps)) := by
  obtain ⟨more, hmore⟩ := joined_eq_cons p ps
  rw [hmore]
  exact (Reads.gap hf more).close?_eq

theorem close?_nil (hf : next.level.flags = .default) (ho : next.opened = []) :
    next.close? [] = some next :=
  close?_eq_some_iff.mpr ⟨finish?_of_skip_nil (by rw [hf]; rfl), ho⟩

theorem joined_singleton (p : List Char) : joined [p] = grouped p ++ [] := by
  simp [joined]

/-- Patterns that can be read in groups one after another are well formed, and their names are
different. -/
theorem afterGroups_of_close? (hf : base.level.flags = .default) (ho : base.opened = [])
    (hne : ps ≠ []) (hc : ∀ p ∈ ps, Contained p) (h : base.close? (joined ps) = some last) :
    (∀ p ∈ ps, Pattern.WellFormed p) ∧ Apart base.names ps ∧ AfterGroups base ps last := by
  induction ps generalizing base with
  | nil => exact absurd rfl hne
  | cons p ps ih =>
    have hp := hc p List.mem_cons_self
    cases ps with
    | nil =>
      rw [joined_singleton] at h
      obtain ⟨hwf, hd, next, hnext, hlast⟩ := afterGroup_of_close? hf ho hp h
      rw [close?_nil (hnext.flags.trans hf) (hnext.opened.trans ho)] at hlast
      cases hlast
      refine ⟨by simpa using hwf, apart_cons_iff.mpr ⟨hd, ?_⟩, .one hnext⟩
      simp [Apart]
    | cons q ps =>
      rw [joined_cons_cons] at h
      obtain ⟨hwf, hd, next, hnext, hlast⟩ := afterGroup_of_close? hf ho hp h
      have hflags := hnext.flags.trans hf
      rw [close?_gap hflags] at hlast
      obtain ⟨hwfs, hapart, hlast⟩ := @ih (next.pushAll [.gap]) hflags (hnext.opened.trans ho)
        (by simp) (fun p' hp' => hc p' (List.mem_cons_of_mem _ hp')) hlast
      refine ⟨List.forall_mem_cons.mpr ⟨hwf, hwfs⟩, apart_cons_iff.mpr ⟨hd, ?_⟩, .cons hnext hlast⟩
      rw [← hnext.names]
      exact hapart

/-- Well-formed patterns with different names can be read in groups one after another. -/
theorem exists_close?_joined (hf : base.level.flags = .default) (ho : base.opened = [])
    (hne : ps ≠ []) (hc : ∀ p ∈ ps, Contained p) (hwf : ∀ p ∈ ps, Pattern.WellFormed p)
    (hapart : Apart base.names ps) : ∃ last, base.close? (joined ps) = some last := by
  induction ps generalizing base with
  | nil => exact absurd rfl hne
  | cons p ps ih =>
    obtain ⟨hp, hps⟩ := List.forall_mem_cons.mp hwf
    obtain ⟨hcp, hcps⟩ := List.forall_mem_cons.mp hc
    obtain ⟨hd, hapart⟩ := apart_cons_iff.mp hapart
    have hgroup : ∀ u, ∃ next, AfterGroup base p next ∧
        base.close? (grouped p ++ u) = next.close? u := by
      intro u
      rcases close?_grouped hf hp (hcp.comment hp) u with ⟨-, h⟩ | ⟨hclash, -⟩
      · exact h
      · exact absurd hd hclash
    cases ps with
    | nil =>
      obtain ⟨next, hnext, heq⟩ := hgroup []
      rw [joined_singleton, heq]
      exact ⟨next, close?_nil (hnext.flags.trans hf) (hnext.opened.trans ho)⟩
    | cons q ps =>
      obtain ⟨next, hnext, heq⟩ := hgroup ('.' :: '+' :: joined (q :: ps))
      have hflags := hnext.flags.trans hf
      rw [joined_cons_cons, heq, close?_gap hflags]
      refine @ih (next.pushAll [.gap]) hflags (hnext.opened.trans ho) (by simp) hcps hps ?_
      rw [← hnext.names] at hapart
      exact hapart

/-- The part that a pattern makes in a group of its own, with the numbers of its groups raised. -/
def Item.IsGroup (p : List Char) (item : Item) : Prop :=
  ∃ k, item = ⟨(Pattern.node p).shift k, Pattern.depth p + 1, true⟩

/-- A group is nested one deeper than its pattern. -/
theorem Item.forall_depth_lt_iff {groups : List Item} (h : List.Forall₂ Item.IsGroup ps groups) {d : Nat} :
    (∀ g ∈ groups, g.depth < d) ↔ ∀ p ∈ ps, Pattern.depth p + 2 ≤ d := by
  induction h with
  | nil => simp
  | cons hgroup _ ih =>
    obtain ⟨k, rfl⟩ := hgroup
    rw [List.forall_mem_cons, List.forall_mem_cons, ih]
    rfl

/-- Groups and the gaps between them come to what was read before. -/
theorem AfterGroups.exists_items (h : AfterGroups base ps last) :
    ∃ groups, List.Forall₂ Item.IsGroup ps groups ∧
      last.level = (base.pushAll (groups.intersperse .gap)).level := by
  induction h with
  | @one base last p h => exact ⟨[_], .cons ⟨base.captures, rfl⟩ .nil, h.level⟩
  | @cons base next last p q ps h _ ih =>
    obtain ⟨groups, hgroups, hlevel⟩ := ih
    obtain ⟨group, groups, hgroup, hrest, rfl⟩ := List.forall₂_cons_left_iff.mp hgroups
    refine ⟨_ :: group :: groups, .cons ⟨base.captures, rfl⟩ hgroups, ?_⟩
    rw [hlevel, Reader.pushAll, Reader.pushAll, h.level]
    simp [Reader.pushAll, Level.push, List.intersperse_cons_cons]

/-- Parts at the start of a pattern make one alternative. -/
theorem value_pushAll (items : List Item) :
    (Reader.start.pushAll items).level.value = Measured.ofItems items.reverse := by
  simp [Reader.pushAll, Reader.start, Level.value, Measured.ofBranches]

/-- Groups at the start of a pattern make one alternative with the gaps between them. -/
theorem AfterGroups.exists_value (h : AfterGroups .start ps last) :
    ∃ groups, List.Forall₂ Item.IsGroup ps groups ∧
      last.level.value = Measured.ofItems (groups.intersperse .gap).reverse := by
  obtain ⟨groups, hgroups, hlevel⟩ := h.exists_items
  refine ⟨groups, hgroups, ?_⟩
  rw [hlevel, value_pushAll]

theorem deepest_le_iff {depths : List Nat} {d : Nat} : deepest depths ≤ d ↔ ∀ n ∈ depths, n ≤ d := by
  have key : ∀ (l : List Nat) (a : Nat), l.foldl Nat.max a ≤ d ↔ a ≤ d ∧ ∀ n ∈ l, n ≤ d := by
    intro l
    induction l with
    | nil => simp
    | cons n l ih =>
      intro a
      have hmax : Nat.max a n ≤ d ↔ a ≤ d ∧ n ≤ d := Nat.max_le
      rw [List.foldl_cons, ih, List.forall_mem_cons, hmax, and_assoc]
  rw [deepest, key]
  exact and_iff_right (Nat.zero_le d)

theorem forall_mem_intersperse {α : Type} {l : List α} {a : α} {P : α → Prop} :
    (∀ x ∈ l.intersperse a, P x) ↔ (∀ x ∈ l, P x) ∧ (2 ≤ l.length → P a) := by
  induction l with
  | nil => simp
  | cons x l ih =>
    cases l with
    | nil => simp
    | cons y l =>
      simp only [List.intersperse_cons_cons, List.forall_mem_cons, List.length_cons] at ih ⊢
      rw [ih]
      constructor
      · rintro ⟨hx, ha, hl, -⟩
        exact ⟨⟨hx, hl⟩, fun _ => ha⟩
      · rintro ⟨⟨hx, hl⟩, ha⟩
        exact ⟨hx, ha (by omega), hl, fun _ => ha (by omega)⟩

/-- An alternative with several parts is nested one deeper than the deepest of them. -/
theorem Measured.depth_ofItems_le_iff {items : List Item} (h : 2 ≤ items.length) {d : Nat} :
    (Measured.ofItems items).depth ≤ d ↔ ∀ i ∈ items, i.depth < d := by
  match items with
  | [] => cases h
  | [_] => exact absurd h (by simp)
  | i :: j :: items =>
    rw [show (Measured.ofItems (i :: j :: items)).depth =
      deepest ((i :: j :: items).map (·.depth)) + 1 from rfl]
    cases d with
    | zero =>
      exact ⟨fun h => absurd h (Nat.not_succ_le_zero _),
        fun h => absurd (h i List.mem_cons_self) (Nat.not_lt_zero _)⟩
    | succ d =>
      simp only [Nat.add_le_add_iff_right, deepest_le_iff, List.forall_mem_map, Nat.lt_succ_iff]

/-- Two groups or more are nested one deeper together. -/
theorem AfterGroups.depth_le_iff (h : AfterGroups .start ps last) (hps : 2 ≤ ps.length) {d : Nat} :
    last.level.value.depth ≤ d ↔ ∀ p ∈ ps, Pattern.depth p + 2 ≤ d := by
  obtain ⟨groups, hgroups, hvalue⟩ := h.exists_value
  have hlength : 2 ≤ groups.length := hgroups.length_eq ▸ hps
  have hitems : 2 ≤ (groups.intersperse .gap).reverse.length := by
    rw [List.length_reverse, List.length_intersperse]
    omega
  rw [hvalue, Measured.depth_ofItems_le_iff hitems]
  simp only [List.mem_reverse, forall_mem_intersperse, Item.forall_depth_lt_iff hgroups]
  refine and_iff_left_of_imp fun hdeep _ => ?_
  -- There is a pattern, and its group is at least as deep as a gap.
  obtain ⟨p, hp⟩ := List.exists_mem_of_length_pos (Nat.lt_of_lt_of_le Nat.zero_lt_two hps)
  exact Nat.lt_of_lt_of_le (Nat.succ_lt_succ (Nat.succ_pos _)) (hdeep p hp)

/-- Patterns that keep to their groups stand for expressions together just if each of them does by itself,
no two share the name of a group, and none is nested so deep that its group is too deep. -/
theorem isSome_parse?_joined_iff (hps : 2 ≤ ps.length) (hc : ∀ p ∈ ps, Contained p) :
    (Pattern.parse? (joined ps)).isSome = true ↔
      (∀ p ∈ ps, (Pattern.parse? p).isSome = true) ∧
        (ps.map Pattern.names).Pairwise List.Disjoint ∧
        ∀ p ∈ ps, Pattern.depth p + 2 ≤ depthLimit := by
  have hne : ps ≠ [] := by
    rintro rfl
    cases hps
  have hapart : Apart Reader.start.names ps ↔ (ps.map Pattern.names).Pairwise List.Disjoint := by
    simp [Apart, Reader.start]
  have hdepth : ∀ last, Pattern.read? (joined ps) = some last → AfterGroups .start ps last →
      (Pattern.depth (joined ps) ≤ depthLimit ↔ ∀ p ∈ ps, Pattern.depth p + 2 ≤ depthLimit) := by
    intro last hlast hafter
    rw [Pattern.depth, hlast, Option.elim_some, hafter.depth_le_iff hps]
  simp only [isSome_parse?_iff]
  constructor
  · rintro ⟨hwf, hd⟩
    obtain ⟨last, hlast⟩ := Option.isSome_iff_exists.mp hwf
    obtain ⟨hwfs, hnames, hafter⟩ := afterGroups_of_close? rfl rfl hne hc hlast
    have hdepths := (hdepth last hlast hafter).mp hd
    exact ⟨fun p hp => ⟨hwfs p hp, Nat.le_of_add_right_le (hdepths p hp)⟩, hapart.mp hnames, hdepths⟩
  · rintro ⟨hwfs, hnames, hdepths⟩
    obtain ⟨last, hlast⟩ := exists_close?_joined rfl rfl hne hc (fun p hp => (hwfs p hp).1)
      (hapart.mpr hnames)
    obtain ⟨-, -, hafter⟩ := afterGroups_of_close? rfl rfl hne hc hlast
    exact ⟨by rw [Pattern.WellFormed, Pattern.read?, hlast]; rfl, (hdepth last hlast hafter).mpr hdepths⟩

end RowQuery.Regex
