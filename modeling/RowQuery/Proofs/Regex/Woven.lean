import RowQuery.Proofs.Regex.Joining

/-!
What patterns match in one pattern, each in a group of its own.

* `Gap`, `Woven`: what patterns match one after another, with gaps between one and the next.
* `spans_joined_iff`: this is what the patterns match in one pattern.
* `Between`, `Thins`: some of a list, when something is asked of what is left out between two of them.
* `Woven.of_thins`: patterns that match what lies within a line may be left out.
-/
namespace RowQuery.Regex

variable {p q m n : Place} {s t text pattern : List Char} {ps : List (List Char)}

/-! ## Patterns one after another -/

/-- There is a gap from a place to another: a character or more, within a line. -/
def Gap (p q : Place) : Prop := ∃ s, s ≠ [] ∧ '\n' ∉ s ∧ Place.Over s p q

/-- The characters of a gap are no line ends. -/
theorem forall_mem_compl_iff {s : List Char} :
    (∀ c ∈ s, (Unicode.CharSet.compl (.single '\n')).mem c = true) ↔ '\n' ∉ s := by
  simp only [Unicode.CharSet.mem_compl, Unicode.CharSet.mem_single, Bool.not_eq_true',
    decide_eq_false_iff_not]
  exact ⟨fun h hn => h _ hn rfl, fun h c hc he => h (he ▸ hc)⟩

theorem spans_gap : Item.gap.node.Spans p q ↔ Gap p q := by
  rw [Item.gap, spans_run]
  simp only [forall_mem_compl_iff, Gap]

/-- Two gaps with a text within a line between them are a gap. -/
theorem Gap.append (h : Gap p m) (hline : '\n' ∉ s) (hs : Place.Over s m n) (h' : Gap n q) : Gap p q := by
  obtain ⟨t, hne, hline₁, hover⟩ := h
  obtain ⟨u, -, hline₂, hover'⟩ := h'
  refine ⟨t ++ (s ++ u), fun hnil => hne (List.append_eq_nil_iff.mp hnil).1, ?_, ?_⟩
  · simp [hline, hline₁, hline₂]
  · exact over_append.mpr ⟨m, hover, over_append.mpr ⟨n, hs, hover'⟩⟩

theorem Place.Lies.gap (hp : p.Lies text) (h : Gap p q) : q.Lies text := by
  obtain ⟨s, -, -, hs⟩ := h
  exact hp.over hs

theorem Place.Lies.spans {a : Node} (hp : p.Lies text) (h : a.Spans p q) : q.Lies text := by
  obtain ⟨s, hs⟩ := Node.exists_over_of_spans h
  exact hp.over hs

/-- Patterns match one after another, each after a gap. -/
def GoesOn : List (List Char) → Place → Place → Prop
  | [], p, q => p = q
  | pattern :: ps, p, q => ∃ m n, Gap p m ∧ (Pattern.node pattern).Spans m n ∧ GoesOn ps n q

/-- Patterns match one after another, with a gap between one and the next. -/
def Woven : List (List Char) → Place → Place → Prop
  | [], p, q => p = q
  | pattern :: ps, p, q => ∃ m, (Pattern.node pattern).Spans p m ∧ GoesOn ps m q

theorem goesOn_cons : GoesOn (pattern :: ps) p q ↔ ∃ m, Gap p m ∧ Woven (pattern :: ps) m q := by
  simp only [GoesOn, Woven, exists_and_left]

/-! ## Patterns in one pattern -/

theorem Item.spans_of_isGroup {item : Item} (h : item.IsGroup pattern) :
    item.node.Spans p q ↔ (Pattern.node pattern).Spans p q := by
  obtain ⟨k, rfl⟩ := h
  rw [Node.spans_shift]

theorem Item.repeatable_of_groups {groups : List Item} (h : List.Forall₂ Item.IsGroup ps groups) :
    ∀ group ∈ groups, group.repeatable = true := by
  induction h with
  | nil => exact List.forall_mem_nil _
  | cons hgroup _ ih =>
    obtain ⟨k, rfl⟩ := hgroup
    exact List.forall_mem_cons.mpr ⟨rfl, ih⟩

theorem spansAll_groups {groups : List Item} (h : List.Forall₂ Item.IsGroup ps groups) :
    Node.SpansAll ((groups.intersperse .gap).map (·.node)) p q ↔ Woven ps p q := by
  induction h generalizing p with
  | nil => rfl
  | @cons pattern group ps groups hgroup hrest ih =>
    cases hrest with
    | nil => simp only [List.intersperse_singleton, List.map_cons, List.map_nil, Node.SpansAll, Woven,
        GoesOn, Item.spans_of_isGroup hgroup]
    | cons =>
      simp only [List.intersperse_cons_cons, List.map_cons, Node.SpansAll, Item.spans_of_isGroup hgroup,
        spans_gap] at ih ⊢
      simp only [ih, Woven, goesOn_cons]

/-- Patterns that keep to their groups match one after another in one pattern. -/
theorem spans_joined_iff {node : Node} (hne : ps ≠ []) (hc : ∀ pattern ∈ ps, Contained pattern)
    (h : Pattern.parse? (joined ps) = some node) : node.Spans p q ↔ Woven ps p q := by
  have hwf : Pattern.WellFormed (joined ps) := ((isSome_parse?_iff _).mp (by rw [h]; rfl)).1
  obtain ⟨last, hlast⟩ := Option.isSome_iff_exists.mp hwf
  obtain ⟨-, -, hafter⟩ := afterGroups_of_close? rfl rfl hne hc hlast
  obtain ⟨groups, hgroups, hvalue⟩ := hafter.exists_value
  have hnode : node = (Measured.ofItems (groups.intersperse .gap).reverse).node := by
    rw [eq_node_of_parse? h, Pattern.node, hlast, Option.elim_some, hvalue]
  have hrepeatable : ∀ i ∈ (groups.intersperse .gap).reverse, i.repeatable = true := by
    simp only [List.mem_reverse, forall_mem_intersperse]
    exact ⟨Item.repeatable_of_groups hgroups, fun _ => rfl⟩
  rw [hnode, Measured.spans_ofItems hrepeatable, List.reverse_reverse, spansAll_groups hgroups]

/-! ## Patterns left out -/

/-- Some of a list in their order, from the first of the list on, when those left out before the last of them
have a property. -/
inductive Between {α : Type} (P : α → Prop) : List α → List α → Prop
  | done {all : List α} : Between P [] all
  | keep {a : α} {kept all : List α} (h : Between P kept all) : Between P (a :: kept) (a :: all)
  | skip {a : α} {kept all : List α} (ha : P a) (h : Between P kept all) : Between P kept (a :: all)

/-- Some of a list in their order, when those left out between two of them have a property. What is left out
before the first or after the last may be anything. -/
def Thins {α : Type} (P : α → Prop) (kept all : List α) : Prop :=
  ∃ rest, rest <:+ all ∧ Between P kept rest

section Between

variable {α β : Type} {P Q : α → Prop} {kept all : List α}

theorem Between.map {f : β → α} {kept all : List β} (h : Between (fun b => P (f b)) kept all) :
    Between P (kept.map f) (all.map f) := by
  induction h with
  | done => exact .done
  | keep _ ih => exact .keep ih
  | skip ha _ ih => exact .skip ha ih

theorem Thins.map {f : β → α} {kept all : List β} (h : Thins (fun b => P (f b)) kept all) :
    Thins P (kept.map f) (all.map f) := by
  obtain ⟨rest, hrest, h⟩ := h
  exact ⟨rest.map f, hrest.map f, h.map⟩

/-- Where all of a list have the property, any of them may be left out. -/
theorem Thins.of_sublist (h : kept.Sublist all) (hP : ∀ a, P a) : Thins P kept all := by
  refine ⟨all, List.suffix_refl all, ?_⟩
  induction h with
  | slnil => exact .done
  | cons a _ ih => exact .skip (hP a) ih
  | cons_cons a _ ih => exact .keep ih

end Between

/-- Whatever a pattern matches in a text lies within a line. -/
def WithinLine (text pattern : List Char) : Prop :=
  ∀ p q s, p.Lies text → (Pattern.node pattern).Spans p q → Place.Over s p q → '\n' ∉ s

/-- In a text of one line everything lies within it. -/
theorem withinLine_of_not_mem (h : '\n' ∉ text) (pattern : List Char) : WithinLine text pattern := by
  rintro p q s ⟨front, htext, -, -⟩ - hs hmem
  refine h ?_
  rw [htext, hs.rest_eq]
  exact List.mem_append_right _ (List.mem_append_left _ hmem)

variable {kept all : List (List Char)}

/-- After the first, a pattern that is left out becomes part of the gap. -/
theorem GoesOn.of_between (h : Between (WithinLine text) kept all) (hp : p.Lies text)
    (hall : GoesOn all p q) : ∃ q', GoesOn kept p q' := by
  induction h generalizing p with
  | done => exact ⟨p, rfl⟩
  | keep _ ih =>
    obtain ⟨m, n, hgap, hspans, hall⟩ := hall
    obtain ⟨q', hkept⟩ := ih ((hp.gap hgap).spans hspans) hall
    exact ⟨q', m, n, hgap, hspans, hkept⟩
  | @skip pattern kept all hline _ ih =>
    obtain ⟨m, n, hgap, hspans, hall⟩ := hall
    have hm := hp.gap hgap
    obtain ⟨s, hs⟩ := Node.exists_over_of_spans hspans
    obtain ⟨q', hkept⟩ := ih (hm.over hs) hall
    cases kept with
    | nil => exact ⟨p, rfl⟩
    | cons pattern' kept =>
      obtain ⟨m', n', hgap', hspans', hkept⟩ := hkept
      exact ⟨q', m', n', hgap.append (hline m n s hm hspans hs) hs hgap', hspans', hkept⟩

/-- The patterns from a later one on match one after another too. -/
theorem Woven.tail (hne : ps ≠ []) (hp : p.Lies text) (h : Woven (pattern :: ps) p q) :
    ∃ p', p'.Lies text ∧ Woven ps p' q := by
  obtain ⟨m, hspans, h⟩ := h
  cases ps with
  | nil => exact absurd rfl hne
  | cons pattern' ps =>
    obtain ⟨p', hgap, h⟩ := goesOn_cons.mp h
    exact ⟨p', (hp.spans hspans).gap hgap, h⟩

theorem Woven.of_suffix (hne : ps ≠ []) (hsuffix : ps <:+ all) (hp : p.Lies text) (h : Woven all p q) :
    ∃ p', p'.Lies text ∧ Woven ps p' q := by
  induction all generalizing p with
  | nil => exact absurd (List.suffix_nil.mp hsuffix) hne
  | cons pattern all ih =>
    rcases List.suffix_cons_iff.mp hsuffix with rfl | hsuffix
    · exact ⟨p, hp, h⟩
    · have hall : all ≠ [] := by
        rintro rfl
        exact hne (List.suffix_nil.mp hsuffix)
      obtain ⟨p', hp', h⟩ := h.tail hall hp
      exact ih hsuffix hp' h

theorem Woven.of_between (hne : kept ≠ []) (h : Between (WithinLine text) kept all) (hp : p.Lies text)
    (hall : Woven all p q) : ∃ p' q', p'.Lies text ∧ Woven kept p' q' := by
  induction h generalizing p with
  | done => exact absurd rfl hne
  | keep h _ =>
    obtain ⟨m, hspans, hall⟩ := hall
    obtain ⟨q', hkept⟩ := hall.of_between h (hp.spans hspans)
    exact ⟨p, q', hp, m, hspans, hkept⟩
  | @skip pattern kept all _ h ih =>
    have hall' : all ≠ [] := by
      rintro rfl
      cases h
      exact hne rfl
    obtain ⟨p', hp', hall⟩ := hall.tail hall' hp
    exact ih hne hp' hall

/-- Patterns that match what lies within a line may be left out between others, and any before the first and
after the last. -/
theorem Woven.of_thins (hne : kept ≠ []) (h : Thins (WithinLine text) kept all) (hp : p.Lies text)
    (hall : Woven all p q) : ∃ p' q', p'.Lies text ∧ Woven kept p' q' := by
  obtain ⟨rest, hsuffix, h⟩ := h
  have hrest : rest ≠ [] := by
    rintro rfl
    cases h
    exact hne rfl
  obtain ⟨p', hp', hwoven⟩ := hall.of_suffix hrest hsuffix hp
  exact hwoven.of_between hne h hp'

end RowQuery.Regex
