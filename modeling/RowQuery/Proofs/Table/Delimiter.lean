import RowQuery.Config.Delimiter
import RowQuery.Proofs.Text.Blank
import RowQuery.Proofs.Text.Lines

/-!
One table with two delimiters.

* `Text.replace`: a text with one character in the place of another.
* `Text.lines_replace`, `Table.cells_replace`: its lines, and their cells, are the old ones.
* `Text.blank_replace_iff`: whether a line of it is blank is another matter, if one of the two is white space.
* `Delimiter.ne_of_parse?`: no delimiter ends a line.
* `Table.parse_eq_iff`: two tables are the same if the lines that count have the same cells.
* `Table.parse_replace`: when the table with another delimiter is the same.
-/
namespace RowQuery

namespace Text

/-- A text with one character in the place of another. -/
def replace (d d' : Char) (s : List Char) : List Char := s.map fun c => if c = d then d' else c

variable {d d' c : Char} {s : List Char}

@[simp] theorem replace_cons (d d' c : Char) (s : List Char) :
    replace d d' (c :: s) = (if c = d then d' else c) :: replace d d' s := rfl

theorem replace_self (d : Char) (s : List Char) : replace d d s = s := by
  have hid : (fun c : Char => if c = d then d else c) = id := by
    funext c
    exact (ite_eq_right_iff.mpr Eq.symm)
  rw [replace, hid, List.map_id]

theorem replace_reverse (d d' : Char) (s : List Char) :
    replace d d' s.reverse = (replace d d' s).reverse := List.map_reverse

/-- A character other than the two is where it was. -/
theorem ite_eq_iff (hd : d ≠ c) (hd' : d' ≠ c) (e : Char) : (if e = d then d' else e) = c ↔ e = c := by
  split
  · next h => simp [h, hd, hd']
  · rfl

theorem dropReturn_replace (hd : d ≠ '\r') (hd' : d' ≠ '\r') (line : List Char) :
    dropReturn (replace d d' line) = replace d d' (dropReturn line) := by
  have hlast : (replace d d' line).getLast? = some '\r' ↔ line.getLast? = some '\r' := by
    rw [replace, List.getLast?_map, Option.map_eq_some_iff]
    simp only [ite_eq_iff hd hd', exists_eq_right]
  unfold dropReturn
  by_cases h : line.getLast? = some '\r'
  · rw [if_pos h, if_pos (hlast.mpr h)]
    exact List.map_dropLast.symm
  · rw [if_neg h, if_neg (mt hlast.mp h)]

theorem linesFrom_replace (hfeed : d ≠ '\n' ∧ d' ≠ '\n') (hreturn : d ≠ '\r' ∧ d' ≠ '\r')
    (current s : List Char) :
    linesFrom (replace d d' current) (replace d d' s) = (linesFrom current s).map (replace d d') := by
  induction s generalizing current with
  | nil =>
    cases current with
    | nil => rfl
    | cons c r => exact congrArg (fun line => [line]) (replace_reverse d d' (c :: r)).symm
  | cons c r ih =>
    rw [replace_cons, linesFrom, linesFrom]
    by_cases hc : c = '\n'
    · rw [if_pos hc, if_pos ((ite_eq_iff hfeed.1 hfeed.2 c).mpr hc), List.map_cons, ← replace_reverse,
        dropReturn_replace hreturn.1 hreturn.2, ← ih []]
      rfl
    · rw [if_neg hc, if_neg (mt (ite_eq_iff hfeed.1 hfeed.2 c).mp hc), ← ih (c :: current)]
      rfl

/-- The lines of a text are the old ones where neither character ends a line. -/
theorem lines_replace (hfeed : d ≠ '\n' ∧ d' ≠ '\n') (hreturn : d ≠ '\r' ∧ d' ≠ '\r') (s : List Char) :
    lines (replace d d' s) = (lines s).map (replace d d') :=
  linesFrom_replace hfeed hreturn [] s

theorem splitFrom_replace (h : d' ∉ s) (current : List Char) :
    splitFrom d' current (replace d d' s) = splitFrom d current s := by
  induction s generalizing current with
  | nil => rfl
  | cons c r ih =>
    obtain ⟨hc, hr⟩ := not_or.mp (mt List.mem_cons.mpr h)
    rw [replace_cons, splitFrom, splitFrom, ih hr]
    by_cases hd : c = d
    · simp [hd]
    · simp [hd, Ne.symm hc, ih hr]

/-- The pieces between the new separators are those between the old ones. -/
theorem split_replace (h : d' ∉ s) : split d' (replace d d' s) = split d s := splitFrom_replace h []

theorem blank_replace : Blank (replace d d' s) ↔
    (∀ c ∈ s, c ≠ d → isBlank c = true) ∧ (d ∈ s → isBlank d' = true) := by
  rw [Blank, replace, List.forall_mem_map]
  constructor
  · intro h
    refine ⟨fun c hc hne => ?_, fun hd => ?_⟩
    · simpa [hne] using h c hc
    · simpa using h d hd
  · rintro ⟨hrest, hd⟩ c hc
    split
    · next heq => exact hd (heq ▸ hc)
    · next hne => exact hrest c hc hne

/-- A text stays blank or not, as it was, if both characters are white space or neither is, or the first does
not occur, or there is something else in the text. -/
theorem blank_replace_iff : (Blank (replace d d' s) ↔ Blank s) ↔
    isBlank d = isBlank d' ∨ (d ∈ s → ∃ c ∈ s, c ≠ d ∧ isBlank c = false) := by
  -- A text is itself with `d` in the place of `d`.
  have hself : Blank s ↔ (∀ c ∈ s, c ≠ d → isBlank c = true) ∧ (d ∈ s → isBlank d = true) := by
    rw [← blank_replace, replace_self]
  have hrest : (∃ c ∈ s, c ≠ d ∧ isBlank c = false) ↔ ¬ ∀ c ∈ s, c ≠ d → isBlank c = true := by simp
  rw [blank_replace, hself, hrest]
  generalize (∀ c ∈ s, c ≠ d → isBlank c = true) = rest
  cases isBlank d <;> cases isBlank d' <;> simp <;> tauto

end Text

/-- No delimiter ends a line. -/
theorem Delimiter.ne_of_parse? {s : String} {c : Char} (h : parse? s = some c) : c ≠ '\n' ∧ c ≠ '\r' := by
  unfold parse? at h
  split at h
  · next hfind =>
    cases h
    have hnamed : ∀ entry ∈ named, entry.2 ≠ '\n' ∧ entry.2 ≠ '\r' := by decide
    exact hnamed _ (List.mem_of_find?_eq_some hfind)
  · split at h
    · split at h
      · cases h
      · next hends =>
        cases h
        exact not_or.mp hends
    · cases h

/-- Of a list, two tests keep the same if they agree on what is in it. -/
theorem filter_eq_filter_iff {α : Type} {p q : α → Bool} {l : List α} :
    l.filter p = l.filter q ↔ ∀ a ∈ l, p a = q a := by
  refine ⟨fun h a ha => ?_, List.filter_congr⟩
  have hmem : a ∈ l.filter p ↔ a ∈ l.filter q := by rw [h]
  rw [List.mem_filter, List.mem_filter, and_iff_right ha, and_iff_right ha] at hmem
  exact Bool.eq_iff_iff.mpr hmem

namespace Table

variable {d d' : Char}

theorem cells_replace {line : List Char} (h : d' ∉ line) :
    cells d' (Text.replace d d' line) = cells d line := by
  rw [cells, cells, Text.split_replace h]

/-- Two tables have the same header and rows if the lines that count have the same cells. -/
theorem parse_eq_iff {text text' : String} {hasHeader : Bool} :
    ((parse text' d' hasHeader).header = (parse text d hasHeader).header ∧
        (parse text' d' hasHeader).rows = (parse text d hasHeader).rows) ↔
      (linesOf text').map (cells d') = (linesOf text).map (cells d) := by
  rw [header_parse, header_parse, rows_parse, rows_parse]
  cases hasHeader with
  | false => simp
  | true => cases linesOf text <;> cases linesOf text' <;> simp

/-- The lines that count with the other delimiter have the cells that they have with the first one. -/
theorem map_cells_linesOf_replace (hfeed : d ≠ '\n' ∧ d' ≠ '\n') (hreturn : d ≠ '\r' ∧ d' ≠ '\r')
    {text : String} (hfree : d' ∉ text.toList) :
    (linesOf (String.ofList (Text.replace d d' text.toList))).map (cells d') =
      ((Text.lines text.toList).filter fun line =>
        !(Text.trim (Text.replace d d' line)).isEmpty).map (cells d) := by
  rw [linesOf, String.toList_ofList, Text.lines_replace hfeed hreturn, List.filter_map, List.map_map]
  -- A line has no character that the text has not.
  refine List.map_congr_left fun line hline => cells_replace fun hmem => hfree ?_
  exact (Text.cut_lines text.toList).mem (List.mem_of_mem_filter hline) hmem

/-- A table with another delimiter in the place of the first has the same header and the same rows if both
delimiters are white space or neither is, or if each line with the first delimiter also has something else than
that and white space; and only then, since a line that is white space alone does not count. -/
theorem parse_replace {s₁ s₂ : String} {d₁ d₂ : Char} (h₁ : Delimiter.parse? s₁ = some d₁)
    (h₂ : Delimiter.parse? s₂ = some d₂) {text : String} (hfree : d₂ ∉ text.toList) (hasHeader : Bool) :
    let table := parse text d₁ hasHeader
    let table' := parse (String.ofList (Text.replace d₁ d₂ text.toList)) d₂ hasHeader
    (table'.header = table.header ∧ table'.rows = table.rows) ↔
      Text.isBlank d₁ = Text.isBlank d₂ ∨
        ∀ line ∈ Text.lines text.toList, d₁ ∈ line → ∃ c ∈ line, c ≠ d₁ ∧ Text.isBlank c = false := by
  obtain ⟨hfeed₁, hreturn₁⟩ := Delimiter.ne_of_parse? h₁
  obtain ⟨hfeed₂, hreturn₂⟩ := Delimiter.ne_of_parse? h₂
  intro table table'
  -- The cells of a line determine it, so the same lines must count.
  rw [parse_eq_iff, map_cells_linesOf_replace ⟨hfeed₁, hfeed₂⟩ ⟨hreturn₁, hreturn₂⟩ hfree, linesOf,
    (cells_injective d₁).list_map.eq_iff, filter_eq_filter_iff]
  have hcounts (line : List Char) : ((!(Text.trim (Text.replace d₁ d₂ line)).isEmpty) =
      !(Text.trim line).isEmpty) ↔ (Text.Blank (Text.replace d₁ d₂ line) ↔ Text.Blank line) := by
    rw [← Text.trim_eq_nil_iff, ← Text.trim_eq_nil_iff, ← List.isEmpty_iff, ← List.isEmpty_iff,
      ← Bool.eq_iff_iff, Bool.not_inj_iff]
  simp only [hcounts, Text.blank_replace_iff]
  exact ⟨fun h => or_iff_not_imp_left.mpr fun hne line hline => (h line hline).resolve_left hne,
    fun h line hline => h.imp_right fun h => h line hline⟩

/-- Tabs in the place of commas, in a text with a blank line, where each line with a comma has a letter. -/
theorem parse_replace_comma_tab :
    let table := parse "a,b\n \n ,c\nd," ',' true
    let table' := parse (String.ofList (Text.replace ',' '\t' "a,b\n \n ,c\nd,".toList)) '\t' true
    Delimiter.parse? "comma" = some ',' ∧ Delimiter.parse? "tab" = some '\t' ∧
      '\t' ∉ "a,b\n \n ,c\nd,".toList ∧ table'.header = table.header ∧ table'.rows = table.rows := by
  have hcomma : Delimiter.parse? "comma" = some ',' := by decide
  have htab : Delimiter.parse? "tab" = some '\t' := by decide
  have hfree : '\t' ∉ "a,b\n \n ,c\nd,".toList := by decide
  have hlines : Text.lines "a,b\n \n ,c\nd,".toList =
      [['a', ',', 'b'], [' '], [' ', ',', 'c'], ['d', ',']] := by decide
  refine ⟨hcomma, htab, hfree, (parse_replace hcomma htab hfree true).mpr (.inr fun line hline hmem => ?_)⟩
  rw [hlines] at hline
  simp only [List.mem_cons, List.not_mem_nil, or_false] at hline
  rcases hline with rfl | rfl | rfl | rfl
  · exact ⟨'a', by decide, by decide, by decide⟩
  · exact absurd hmem (by decide)
  · exact ⟨'c', by decide, by decide, by decide⟩
  · exact ⟨'d', by decide, by decide, by decide⟩

/-- A line of commas alone is a row, but one of tabs alone is blank. -/
theorem rows_parse_replace_ne :
    Delimiter.parse? "comma" = some ',' ∧ Delimiter.parse? "tab" = some '\t' ∧ '\t' ∉ "a,b\n,,\nc,d".toList ∧
      (parse (String.ofList (Text.replace ',' '\t' "a,b\n,,\nc,d".toList)) '\t' false).rows ≠
        (parse "a,b\n,,\nc,d" ',' false).rows := by
  decide

end Table
end RowQuery
