import RowQuery.Proofs.Regex.Span
import RowQuery.Regex.Pattern

/-!
Expressions with other numbers for their groups.

* `Node.shift`: an expression with the index of each group raised by a number.
* `Node.spans_shift`: the index of a group makes no difference to what is spanned.
* `Node.sequence_shift`, `Node.choice_shift`, `Node.repeated_shift`: nor to the simplest form of an expression.
* `Level.value_shift`: nor to how what was read in a group is put together.
* `Move.Plain`, `plain_of_move?`: an element that is a part by itself has no groups.
-/
namespace RowQuery.Regex

open Unicode (CharSet)

namespace Node

/-- An expression with the index of each group raised by `k`. -/
def shift (k : Nat) : Node → Node
  | .empty => .empty
  | .text s => .text s
  | .set s basic => .set s basic
  | .look l => .look l
  | .cat a b => .cat (a.shift k) (b.shift k)
  | .alt a b => .alt (a.shift k) (b.shift k)
  | .group index a => .group (index + k) (a.shift k)
  | .iterate a min max greedy => .iterate (a.shift k) min max greedy

variable (k : Nat)

/-- What an expression spans does not depend on the numbers of its groups. -/
theorem spans_shift (a : Node) : (a.shift k).Spans = a.Spans := by
  induction a with
  | empty | text | set | look => rfl
  | cat a b iha ihb =>
    funext p q
    simp only [shift, Spans, iha, ihb]
  | alt a b iha ihb =>
    funext p q
    simp only [shift, Spans, iha, ihb]
  | group index a ih => exact ih
  | iterate a min max greedy ih =>
    funext p q
    simp only [shift, Spans, ih]

/-! ## Sequences -/

theorem parts_shift (a : Node) : (a.shift k).parts = a.parts.map (shift k) := by
  induction a with
  | cat a b iha ihb => simp only [shift, parts, iha, ihb, List.map_append]
  | _ => rfl

theorem before_shift (a : Node) (r : List Node) :
    before (a.shift k) (r.map (shift k)) = (before a r).map (shift k) := by
  cases a with
  | text s =>
    cases r with
    | nil => rfl
    | cons b r => cases b <;> rfl
  | _ => rfl

theorem foldr_before_shift (items : List Node) :
    (items.map (shift k)).foldr before [] = (items.foldr before []).map (shift k) := by
  induction items with
  | nil => rfl
  | cons a items ih => rw [List.map_cons, List.foldr_cons, ih, before_shift, List.foldr_cons]

theorem cats_shift (items : List Node) : cats (items.map (shift k)) = (cats items).shift k := by
  fun_induction cats items with
  | case1 => rfl
  | case2 a => rfl
  | case3 a r hr ih =>
    cases r with
    | nil => exact absurd rfl hr
    | cons b r =>
      rw [shift, ← ih]
      rfl

theorem flatMap_parts_shift (items : List Node) :
    (items.map (shift k)).flatMap parts = (items.flatMap parts).map (shift k) := by
  rw [List.flatMap_map, List.map_flatMap]
  exact List.flatMap_congr fun a _ => parts_shift k a

theorem sequence_shift (items : List Node) :
    sequence (items.map (shift k)) = (sequence items).shift k := by
  rw [sequence, sequence, flatMap_parts_shift, foldr_before_shift, cats_shift]

/-! ## Choices -/

theorem alternatives_shift (a : Node) : (a.shift k).alternatives = a.alternatives.map (shift k) := by
  induction a with
  | alt a b iha ihb => simp only [shift, alternatives, iha, ihb, List.map_append]
  | _ => rfl

theorem flatMap_alternatives_shift (items : List Node) :
    (items.map (shift k)).flatMap alternatives = (items.flatMap alternatives).map (shift k) := by
  rw [List.flatMap_map, List.map_flatMap]
  exact List.flatMap_congr fun a _ => alternatives_shift k a

theorem char?_shift (a : Node) : (a.shift k).char? = a.char? := by
  cases a <;> rfl

theorem set?_shift (a : Node) : (a.shift k).set? = a.set? := by
  cases a <;> rfl

theorem sets?_shift (items : List Node) : sets? (items.map (shift k)) = sets? items := by
  have hchar : char? ∘ shift k = char? := funext (char?_shift k)
  have hset : set? ∘ shift k = set? := funext (set?_shift k)
  rw [sets?, sets?, List.mapM_map, List.mapM_map, hchar, hset]

theorem alts_shift (items : List Node) : alts (items.map (shift k)) = (alts items).shift k := by
  fun_induction alts items with
  | case1 => rfl
  | case2 a => rfl
  | case3 a r hr ih =>
    cases r with
    | nil => exact absurd rfl hr
    | cons b r =>
      rw [shift, ← ih]
      rfl

/-- Characters and sets have no groups. -/
theorem shift_ofSet (s : CharSet) (basic : Bool) : (ofSet s basic).shift k = ofSet s basic := by
  unfold ofSet
  split <;> rfl

theorem union_shift (items : List Node) : union (items.map (shift k)) = (union items).shift k := by
  rw [union, union, flatMap_alternatives_shift]
  cases items.flatMap alternatives with
  | nil =>
    simp only [List.map_nil]
    split
    · exact (shift_ofSet k _ _).symm
    · rfl
  | cons a items =>
    cases items with
    | nil => rfl
    | cons b items =>
      rw [List.map_cons, List.map_cons]
      simp only
      rw [← List.map_cons, ← List.map_cons, sets?_shift]
      split
      · exact (shift_ofSet k _ _).symm
      · exact alts_shift k _

/-- Whether two expressions are alike does not change if the numbers of both are raised. -/
theorem same_shift (a b : Node) : (a.shift k).same (b.shift k) = a.same b := by
  induction a generalizing b with
  | cat a a' iha ihb => cases b <;> simp [shift, same, iha, ihb]
  | alt a a' iha ihb => cases b <;> simp [shift, same, iha, ihb]
  | group index a ih =>
    cases b with
    | group index' b =>
      have hindex : (index + k == index' + k) = (index == index') := by
        rw [Bool.eq_iff_iff, beq_iff_eq, beq_iff_eq, Nat.add_right_cancel_iff]
      rw [shift, shift, same, same, ih, hindex]
    | _ => rfl
  | iterate a min max greedy ih => cases b <;> simp [shift, same, ih]
  | _ => cases b <;> rfl

theorem shared_shift (l r : List Node) :
    shared (l.map (shift k)) (r.map (shift k)) = shared l r := by
  induction l generalizing r with
  | nil => rfl
  | cons a l ih =>
    cases r with
    | nil => rfl
    | cons b r => simp only [List.map_cons, shared, same_shift, ih]

theorem sharedByAll_shift (branches : List (List Node)) :
    sharedByAll (branches.map (List.map (shift k))) = sharedByAll branches := by
  cases branches with
  | nil => rfl
  | cons first others =>
    have hall : ((first :: others).map (List.map (shift k))).all (2 ≤ ·.length) =
        (first :: others).all (2 ≤ ·.length) := by
      simp [List.all_map, Function.comp_def]
    rw [List.map_cons] at hall
    simp only [List.map_cons, sharedByAll, hall, List.foldl_map, shared_shift, List.length_map]

theorem choice_shift (items : List Node) : choice (items.map (shift k)) = (choice items).shift k := by
  have hbranches : ((items.map (shift k)).flatMap alternatives).map parts =
      ((items.flatMap alternatives).map parts).map (List.map (shift k)) := by
    rw [flatMap_alternatives_shift, List.map_map, List.map_map]
    exact List.map_congr_left fun a _ => parts_shift k a
  simp only [choice, hbranches, sharedByAll_shift]
  cases hb : (items.flatMap alternatives).map parts with
  | nil => exact union_shift k items
  | cons first others =>
    cases sharedByAll (first :: others) with
    | zero => exact union_shift k items
    | succ count =>
      have hrest : ((first :: others).map (List.map (shift k))).map (fun b => cats (b.drop (count + 1))) =
          ((first :: others).map fun b => cats (b.drop (count + 1))).map (shift k) := by
        rw [List.map_map, List.map_map]
        refine List.map_congr_left fun b _ => ?_
        rw [Function.comp_apply, Function.comp_apply, ← List.map_drop, cats_shift]
      simp only [List.map_cons] at hrest ⊢
      rw [hrest, ← List.map_cons, union_shift, ← sequence_shift, List.map_append, List.map_take,
        List.map_singleton]

/-! ## Repetitions -/

theorem onlyEmpty_shift (a : Node) : (a.shift k).onlyEmpty = a.onlyEmpty := by
  induction a with
  | cat a b iha ihb => simp only [shift, onlyEmpty, iha, ihb]
  | alt a b iha ihb => simp only [shift, onlyEmpty, iha, ihb]
  | group index a ih => simp only [shift, onlyEmpty, ih]
  | iterate a min max greedy ih => simp only [shift, onlyEmpty, ih]
  | _ => rfl

theorem repeated_shift (a : Node) (min : Nat) (max : Option Nat) (greedy : Bool) :
    (a.shift k).repeated min max greedy = (a.repeated min max greedy).shift k := by
  simp only [repeated, onlyEmpty_shift]
  split
  · split
    · rfl
    · split <;> rfl
  · split
    · rfl
    · split <;> rfl

end Node

/-! ## What was read in a group -/

/-- A part with the numbers of its groups raised. -/
def Item.shift (k : Nat) (item : Item) : Item := { item with node := item.node.shift k }

/-- An expression with the numbers of its groups raised. -/
def Measured.shift (k : Nat) (a : Measured) : Measured := { a with node := a.node.shift k }

/-- What was read in a group, with the numbers of its groups raised. -/
def Level.shift (k : Nat) (level : Level) : Level :=
  { level with branches := level.branches.map (.shift k), items := level.items.map (.shift k) }

section Level

variable (k : Nat)

theorem Measured.ofItems_shift (items : List Item) :
    Measured.ofItems (items.map (.shift k)) = (Measured.ofItems items).shift k := by
  have hnodes : (((items.map (Item.shift k)).filter (·.repeatable)).reverse.map (·.node)) =
      ((items.filter (·.repeatable)).reverse.map (·.node)).map (Node.shift k) := by
    rw [List.filter_map, List.map_reverse, List.map_reverse, List.map_reverse, List.map_map, List.map_map]
    rfl
  have hdepths : (items.map (Item.shift k)).map (·.depth) = items.map (·.depth) := by
    rw [List.map_map]
    rfl
  match items, hnodes, hdepths with
  | [], _, _ => rfl
  | [item], _, _ => rfl
  | i :: j :: items, hnodes, hdepths =>
    rw [show Measured.ofItems ((i :: j :: items).map (Item.shift k)) =
      ⟨.sequence ((((i :: j :: items).map (Item.shift k)).filter (·.repeatable)).reverse.map (·.node)),
        deepest (((i :: j :: items).map (Item.shift k)).map (·.depth)) + 1⟩ from rfl,
      hnodes, hdepths, Node.sequence_shift]
    rfl

theorem Measured.ofBranches_shift (branches : List Measured) :
    Measured.ofBranches (branches.map (.shift k)) = (Measured.ofBranches branches).shift k := by
  have hnodes : ((branches.map (Measured.shift k)).reverse.map (·.node)) =
      (branches.reverse.map (·.node)).map (Node.shift k) := by
    rw [← List.map_reverse, List.map_map, List.map_map]
    rfl
  have hdepths : (branches.map (Measured.shift k)).map (·.depth) = branches.map (·.depth) := by
    rw [List.map_map]
    rfl
  match branches, hnodes, hdepths with
  | [], _, _ => rfl
  | [a], _, _ => rfl
  | a :: b :: branches, hnodes, hdepths =>
    rw [show Measured.ofBranches ((a :: b :: branches).map (Measured.shift k)) =
      ⟨.choice (((a :: b :: branches).map (Measured.shift k)).reverse.map (·.node)),
        deepest (((a :: b :: branches).map (Measured.shift k)).map (·.depth)) + 1⟩ from rfl,
      hnodes, hdepths, Node.choice_shift]
    rfl

theorem Level.value_shift (level : Level) : (level.shift k).value = level.value.shift k := by
  rw [Level.value, Level.value, ← Measured.ofBranches_shift, List.map_cons, ← Measured.ofItems_shift]
  rfl

end Level

/-! ## Elements without groups -/

/-- An expression does not change if the numbers of its groups are raised, for it has none. -/
def Node.Plain (a : Node) : Prop := ∀ k, a.shift k = a

theorem Flags.plain_of_literal? {flags : Flags} {c : Char} {wide : Bool} {node : Node}
    (h : flags.literal? c wide = some node) : node.Plain := by
  intro k
  simp only [Flags.literal?] at h
  split at h
  · cases h
  · split at h
    · split at h
      · cases h
        exact Node.shift_ofSet k _ _
      · split at h
        · cases h
          exact Node.shift_ofSet k _ _
        · cases h
          rfl
    · cases h
      rfl

theorem Flags.plain_of_dot? {flags : Flags} {node : Node} (h : flags.dot? = some node) :
    node.Plain := by
  intro k
  simp only [Flags.dot?] at h
  split at h
  · cases h
  · split at h
    · cases h
      rfl
    · split at h
      · cases h
        rfl
      · cases h
        rfl

/-- A primitive has no groups. -/
theorem Primitive.plain_of_node? {flags : Flags} {p : Primitive} {node : Node}
    (h : p.node? flags = some node) : node.Plain := by
  cases p with
  | literal c wide => exact Flags.plain_of_literal? h
  | dot => exact Flags.plain_of_dot? h
  | look l =>
    cases h
    exact fun k => rfl
  | lineStart =>
    cases h
    exact fun k => rfl
  | lineEnd =>
    cases h
    exact fun k => rfl
  | boundary kind =>
    cases h
    exact fun k => rfl
  | shorthand kind negated =>
    obtain ⟨s, -, rfl⟩ := Option.map_eq_some_iff.mp h
    exact fun k => Node.shift_ofSet k _ _
  | property query negated =>
    obtain ⟨s, -, rfl⟩ := Option.map_eq_some_iff.mp h
    exact fun k => Node.shift_ofSet k _ _

/-- What an element does; if it is a part by itself, then it is one without groups. -/
def Move.Plain : Move → Prop
  | .push node _ => node.Plain
  | _ => True

/-- A reader of elements reads parts without groups. -/
def ReadsPlain (f : List Char → Option (Move × List Char)) : Prop :=
  ∀ s move r, f s = some (move, r) → move.Plain

namespace ReadsPlain

variable {f g : List Char → Option (Move × List Char)}

theorem ite (p : Prop) [Decidable p] (hf : ReadsPlain f) (hg : ReadsPlain g) :
    ReadsPlain fun s => if p then f s else g s := by
  by_cases hp : p
  · simpa only [if_pos hp] using hf
  · simpa only [if_neg hp] using hg

theorem pure {move : Move} (hmove : move.Plain) : ReadsPlain fun s => some (move, s) := by
  intro s move' r h
  cases h
  exact hmove

theorem repetition (x : Bool) (min : Nat) (max : Option Nat) :
    ReadsPlain fun s => some (repetition x min max s) := by
  intro s move r h
  cases h
  trivial

theorem counted? (x : Bool) : ReadsPlain (counted? x) := by
  intro s move r h
  obtain ⟨⟨⟨min, max⟩, rest⟩, -, h⟩ := Option.bind_eq_some_iff.mp h
  cases h
  trivial

theorem namedGroup? : ReadsPlain namedGroup? := by
  intro s move r h
  obtain ⟨⟨name, rest⟩, -, h⟩ := Option.bind_eq_some_iff.mp h
  cases h
  trivial

theorem flagGroup? (flags : Flags) : ReadsPlain (flagGroup? flags) := by
  intro s move r h
  obtain ⟨⟨inner, bare, ending, rest⟩, -, h⟩ := Option.bind_eq_some_iff.mp h
  simp only at h
  split at h
  · cases h
    trivial
  · split at h
    · cases h
    · cases h
      trivial

theorem specialGroup? (flags : Flags) : ReadsPlain (specialGroup? flags) := by
  intro s move r h
  unfold Regex.specialGroup? at h
  split at h
  · exact namedGroup? _ _ _ h
  · exact namedGroup? _ _ _ h
  · exact flagGroup? _ _ _ _ h

theorem group? (flags : Flags) : ReadsPlain (group? flags) := by
  intro s move r h
  unfold Regex.group? at h
  split at h
  · exact specialGroup? _ _ _ _ h
  · cases h
    trivial

theorem primitive? (flags : Flags) (p : Primitive) : ReadsPlain (flags.primitive? p) := by
  intro s move r h
  obtain ⟨node, hnode, h⟩ := Option.map_eq_some_iff.mp h
  cases h
  exact Primitive.plain_of_node? hnode

theorem escaped? (flags : Flags) : ReadsPlain flags.escaped? := by
  intro s move r h
  obtain ⟨⟨p, rest⟩, -, h⟩ := Option.bind_eq_some_iff.mp h
  exact primitive? flags p _ _ _ h

theorem oneOf? (flags : Flags) : ReadsPlain flags.oneOf? := by
  intro s move r h
  obtain ⟨⟨whole, rest⟩, -, h⟩ := Option.bind_eq_some_iff.mp h
  cases h
  exact fun k => Node.shift_ofSet k _ _

end ReadsPlain

/-- An element that is a part by itself has no groups. -/
theorem plain_of_move? (flags : Flags) (c : Char) : ReadsPlain (flags.move? c) := by
  refine .ite _ (.group? flags) ?_
  refine .ite _ (.pure trivial) (.ite _ (.pure trivial) ?_)
  refine .ite _ (.oneOf? flags) ?_
  refine .ite _ (.repetition _ 0 _) (.ite _ (.repetition _ 0 _) ?_)
  refine .ite _ (.repetition _ 1 _) (.ite _ (.counted? _) ?_)
  refine .ite _ (.escaped? flags) (.ite _ (.primitive? flags _) ?_)
  refine .ite _ (.primitive? flags _) (.ite _ (.primitive? flags _) ?_)
  exact .primitive? flags _

end RowQuery.Regex
