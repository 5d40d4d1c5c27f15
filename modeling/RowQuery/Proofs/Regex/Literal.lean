import RowQuery.Proofs.Regex.Woven

/-!
Patterns made of escaped texts.

* `exists_over_iff`: a text is gone over from some place just if it is part of the text.
* `isMatch_escape_iff`: an escaped text is found where the text itself is.
* `isMatch_whole_iff`: between the marks of start and end it is found in the text alone.
* `weave`: texts put together with gaps between them.
* `isMatch_joined_escape_iff`: several escaped texts are found where they stand in their order, with gaps
  of a character or more within a line between them.
-/
namespace RowQuery.Regex

variable {p q : Place} {s r text : List Char} {texts : List (List Char)}

/-! ## Texts gone over -/

theorem exists_over_of_rest_eq (h : p.rest = s ++ r) : ∃ q, Place.Over s p q ∧ q.rest = r := by
  induction s generalizing p with
  | nil => exact ⟨p, rfl, h⟩
  | cons c s ih =>
    obtain ⟨q, hq, hr⟩ := @ih (p.after c (s ++ r)) rfl
    exact ⟨q, ⟨s ++ r, h, hq⟩, hr⟩

/-- A text is gone over from some place just if it is part of the text. -/
theorem exists_over_iff : (∃ p q : Place, p.Lies text ∧ Place.Over s p q) ↔ s <:+: text := by
  constructor
  · rintro ⟨p, q, ⟨front, htext, -, -⟩, hover⟩
    exact ⟨front, q.rest, by rw [htext, hover.rest_eq, List.append_assoc]⟩
  · rintro ⟨front, r, rfl⟩
    let p : Place := ⟨front.length, front.getLast?, s ++ r⟩
    obtain ⟨q, hq, -⟩ := @exists_over_of_rest_eq p s r rfl
    exact ⟨p, q, ⟨front, List.append_assoc front s r, rfl, rfl⟩, hq⟩

/-! ## One text -/

/-- Some parts at the start of a pattern match one after another. -/
theorem spans_pushAll {items : List Item} (h : ∀ i ∈ items, i.repeatable = true) :
    (Reader.start.pushAll items).level.value.node.Spans p q ↔ Node.SpansAll (items.map (·.node)) p q := by
  rw [value_pushAll, Measured.spans_ofItems fun i hi => h i (List.mem_reverse.mp hi), List.reverse_reverse]

theorem spansAll_ofChar : Node.SpansAll ((s.map Item.ofChar).map (·.node)) p q ↔ Place.Over s p q := by
  induction s generalizing p with
  | nil => rfl
  | cons c s ih =>
    simp only [List.map_cons, Node.SpansAll, ih]
    constructor
    · rintro ⟨m, ⟨r, hr, rfl⟩, h⟩
      exact ⟨r, hr, h⟩
    · rintro ⟨r, hr, h⟩
      exact ⟨p.after c r, ⟨r, hr, rfl⟩, h⟩

/-- An escaped text matches the text itself. -/
theorem spans_escape : (Pattern.node (escape s)).Spans p q ↔ Place.Over s p q := by
  rw [Pattern.node, read?_escape, Option.elim_some, spans_pushAll, spansAll_ofChar]
  intro i hi
  obtain ⟨c, -, rfl⟩ := List.mem_map.mp hi
  rfl

/-- An escaped text is found where the text is. -/
theorem isMatch_escape_iff {limit : Limit} {s : List Char} {regex : RowQuery.Regex}
    (h : compile limit (String.ofList (escape s)) = .ok regex) (text : List Char) :
    regex.isMatch text = true ↔ s <:+: text := by
  rw [isMatch_iff_spans, node_eq_of_compile h, String.toList_ofList]
  simp only [spans_escape, exists_over_iff]

/-- The parts of a text between the marks of start and end. -/
def wholeItems (s : List Char) : List Item :=
  ⟨.look .textStart, 0, true⟩ :: (s.map .ofChar ++ [⟨.look .textEnd, 0, true⟩])

theorem read?_whole (s : List Char) :
    Pattern.read? ('^' :: (escape s ++ ['$'])) = some (Reader.start.pushAll (wholeItems s)) := by
  let start := Reader.start.push (.look .textStart) 0
  have hstart : Reads 1 .start ('^' :: (escape s ++ ['$'])) start (escape s ++ ['$']) := .one rfl rfl
  have hend : Reads 1 (start.pushAll (s.map .ofChar)) ['$']
      ((start.pushAll (s.map .ofChar)).push (.look .textEnd) 0) [] := .one rfl rfl
  have hlast : (start.pushAll (s.map .ofChar)).push (.look .textEnd) 0 =
      Reader.start.pushAll (wholeItems s) := by
    simp [start, Reader.pushAll, Reader.push, Level.push, Reader.start, wholeItems]
  have h := hstart.trans ((Reads.escape rfl s ['$']).trans hend)
  rw [Pattern.read?, h.close?_eq, hlast]
  rfl

/-- Between the marks of start and end, an escaped text matches the text where nothing stands around it. -/
theorem spans_whole : (Pattern.node ('^' :: (escape s ++ ['$']))).Spans p q ↔
    p.before = none ∧ Place.Over s p q ∧ q.rest = [] := by
  have hitems : ∀ i ∈ wholeItems s, i.repeatable = true := by
    intro i hi
    simp only [wholeItems, List.mem_cons, List.mem_append, List.mem_map, List.not_mem_nil, or_false] at hi
    rcases hi with rfl | ⟨c, -, rfl⟩ | rfl
    · rfl
    · rfl
    · rfl
  rw [Pattern.node, read?_whole, Option.elim_some, spans_pushAll hitems, wholeItems, List.map_cons,
    List.map_append, Node.SpansAll]
  simp only [Node.spansAll_append, spansAll_ofChar]
  simp [Node.SpansAll, Node.Spans, Look.holds]

/-- Between the marks of start and end, an escaped text is found in the text alone. -/
theorem isMatch_whole_iff {limit : Limit} {s : List Char} {regex : RowQuery.Regex}
    (h : compile limit ("^" ++ String.ofList (escape s) ++ "$") = .ok regex) (text : List Char) :
    regex.isMatch text = true ↔ text = s := by
  have hpattern : ("^" ++ String.ofList (escape s) ++ "$").toList = '^' :: (escape s ++ ['$']) := by simp
  rw [isMatch_iff_spans, node_eq_of_compile h, hpattern]
  simp only [spans_whole]
  constructor
  · rintro ⟨p, q, ⟨front, rfl, -, hbefore⟩, hnone, hover, hend⟩
    have hfront : front = [] := List.getLast?_eq_none_iff.mp (hbefore.symm.trans hnone)
    rw [hfront, hover.rest_eq, hend, List.nil_append, List.append_nil]
  · rintro rfl
    obtain ⟨q, hq, hend⟩ := @exists_over_of_rest_eq ⟨0, none, text⟩ text [] (List.append_nil text).symm
    exact ⟨_, q, ⟨[], rfl, rfl, rfl⟩, rfl, hq, hend⟩

/-! ## Depth -/

theorem Measured.depth_ofItems_le {items : List Item} {d : Nat} (h : ∀ i ∈ items, i.depth ≤ d) :
    (Measured.ofItems items).depth ≤ d + 1 := by
  match items with
  | [] => exact Nat.zero_le _
  | [i] => exact Nat.le_succ_of_le (h i List.mem_cons_self)
  | i :: j :: items =>
    exact (depth_ofItems_le_iff (by simp)).mpr fun k hk => Nat.lt_succ_of_le (h k hk)

/-- A pattern without groups, of parts that are not nested, stands for an expression. It has no names. -/
theorem flat_of_read? {pattern : List Char} {items : List Item}
    (h : Pattern.read? pattern = some (Reader.start.pushAll items)) (hflat : ∀ i ∈ items, i.depth = 0) :
    (Pattern.parse? pattern).isSome = true ∧ Pattern.names pattern = [] ∧ Pattern.depth pattern ≤ 1 := by
  have hdepth : Pattern.depth pattern ≤ 1 := by
    rw [Pattern.depth, h, Option.elim_some, value_pushAll]
    exact Measured.depth_ofItems_le fun i hi => (hflat i (List.mem_reverse.mp hi)).le
  have hwf : Pattern.WellFormed pattern := by
    rw [Pattern.WellFormed, h]
    rfl
  refine ⟨(isSome_parse?_iff pattern).mpr ⟨hwf, hdepth.trans (by decide)⟩, ?_, hdepth⟩
  rw [Pattern.names, h]
  rfl

theorem flat_escape (s : List Char) : (Pattern.parse? (escape s)).isSome = true ∧
    Pattern.names (escape s) = [] ∧ Pattern.depth (escape s) ≤ 1 :=
  flat_of_read? (read?_escape s) (by simp [Item.ofChar])

theorem flat_whole (s : List Char) : (Pattern.parse? ('^' :: (escape s ++ ['$']))).isSome = true ∧
    Pattern.names ('^' :: (escape s ++ ['$'])) = [] ∧
    Pattern.depth ('^' :: (escape s ++ ['$'])) ≤ 1 :=
  flat_of_read? (read?_whole s) (by simp [wholeItems, Item.ofChar, or_imp, forall_and])

/-! ## Texts in their order -/

/-- Texts put together with gaps between them. -/
def weave : List (List Char) → List (List Char) → List Char
  | [], _ => []
  | s :: _, [] => s
  | s :: texts, gap :: gaps => s ++ (gap ++ weave texts gaps)

/-- Texts stand in a text in their order: `text` is some characters, the first of the texts, a gap, the
next of them and so on, and some characters at the end. A gap is not empty and lies within a line. -/
def InOrder (texts : List (List Char)) (text : List Char) : Prop :=
  ∃ gaps : List (List Char), gaps.length + 1 = texts.length ∧
    (∀ gap ∈ gaps, gap ≠ [] ∧ '\n' ∉ gap) ∧ weave texts gaps <:+: text

/-- Escaped texts match one after another what the texts make together with gaps between them. -/
theorem woven_escape_iff (hne : texts ≠ []) : Woven (texts.map escape) p q ↔
    ∃ gaps : List (List Char), gaps.length + 1 = texts.length ∧
      (∀ gap ∈ gaps, gap ≠ [] ∧ '\n' ∉ gap) ∧ Place.Over (weave texts gaps) p q := by
  induction texts generalizing p with
  | nil => exact absurd rfl hne
  | cons s texts ih =>
    cases texts with
    | nil =>
      simp only [List.map_cons, List.map_nil, Woven, GoesOn, spans_escape, exists_eq_right]
      constructor
      · exact fun h => ⟨[], rfl, List.forall_mem_nil _, h⟩
      · rintro ⟨gaps, hlen, -, h⟩
        obtain rfl : gaps = [] := List.length_eq_zero_iff.mp (Nat.succ.inj hlen)
        exact h
    | cons s' texts =>
      have hcons : Woven ((s :: s' :: texts).map escape) p q ↔
          ∃ m n, Place.Over s p m ∧ Gap m n ∧ Woven ((s' :: texts).map escape) n q := by
        simp only [List.map_cons, Woven, spans_escape, goesOn_cons, exists_and_left]
      rw [hcons]
      simp only [ih (by simp)]
      constructor
      · rintro ⟨m, n, hs, ⟨gap, hgap, hline, hover⟩, gaps, hlen, hgaps, h⟩
        refine ⟨gap :: gaps, congrArg Nat.succ hlen, List.forall_mem_cons.mpr ⟨⟨hgap, hline⟩, hgaps⟩, ?_⟩
        exact over_append.mpr ⟨m, hs, over_append.mpr ⟨n, hover, h⟩⟩
      · rintro ⟨gaps, hlen, hgaps, h⟩
        cases gaps with
        | nil => cases hlen
        | cons gap gaps =>
          obtain ⟨⟨hgap, hline⟩, hgaps⟩ := List.forall_mem_cons.mp hgaps
          obtain ⟨m, hs, h⟩ := over_append.mp h
          obtain ⟨n, hover, h⟩ := over_append.mp h
          exact ⟨m, n, hs, ⟨gap, hgap, hline, hover⟩, gaps, Nat.succ.inj hlen, hgaps, h⟩

/-- Several escaped texts are found where they stand in their order. -/
theorem isMatch_joined_escape_iff {limit : Limit} {texts : List (List Char)} (hne : texts ≠ [])
    {regex : RowQuery.Regex}
    (h : compile limit (String.ofList (joined (texts.map escape))) = .ok regex) (text : List Char) :
    regex.isMatch text = true ↔ InOrder texts text := by
  have hparse := parse?_of_compile h
  rw [String.toList_ofList] at hparse
  have hcontained : ∀ pattern ∈ texts.map escape, Contained pattern := by
    intro pattern hpattern
    obtain ⟨s, -, rfl⟩ := List.mem_map.mp hpattern
    exact contained_escape s
  have hspans : ∀ p q : Place, regex.node.Spans p q ↔ Woven (texts.map escape) p q := fun p q =>
    spans_joined_iff (by simpa using hne) hcontained hparse
  simp only [isMatch_iff_spans, hspans, woven_escape_iff hne]
  constructor
  · rintro ⟨p, q, hp, gaps, hlen, hgaps, hover⟩
    exact ⟨gaps, hlen, hgaps, exists_over_iff.mp ⟨p, q, hp, hover⟩⟩
  · rintro ⟨gaps, hlen, hgaps, hin⟩
    obtain ⟨p, q, hp, hover⟩ := exists_over_iff.mpr hin
    exact ⟨p, q, hp, gaps, hlen, hgaps, hover⟩

end RowQuery.Regex
