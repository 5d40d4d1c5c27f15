import RowQuery.Table

/-!
Texts cut into lines, and lines into cells.

* `Text.Cut`: what the lines of a text are, by the text alone.
* `Text.cut_iff`: `Text.lines` gives these lines and no others.
* `Text.lines_unlines`, `Text.dropReturns_unlines`: lines that are written and read again lose a carriage return
  at their ends.
* `Text.split_eq_splitOn`: cells are the pieces that `List.splitOn` gives.
* `Table.join_cells`: joining the cells of a line gives the line back.
* `Table.header_parse`, `Table.rows_parse`: a table has the cells of the lines that count.
* `Table.map_trimmed_cells_dropReturn`: that carriage return makes no difference to the trimmed cells.
-/
namespace RowQuery

namespace Text

/-! ## Lines -/

/-- A text and its lines. A line goes up to a line feed, and a carriage return just before that is no part
of it; what comes after the last line feed is a line if it is not empty. -/
inductive Cut : List Char → List (List Char) → Prop
  | nil : Cut [] []
  | last {line : List Char} (h : '\n' ∉ line) (hne : line ≠ []) : Cut line [line]
  | feed {line rest : List Char} {lines : List (List Char)} (h : '\n' ∉ line)
      (hend : line.getLast? ≠ some '\r') (hr : Cut rest lines) :
      Cut (line ++ '\n' :: rest) (line :: lines)
  | returnFeed {line rest : List Char} {lines : List (List Char)} (h : '\n' ∉ line)
      (hr : Cut rest lines) : Cut (line ++ '\r' :: '\n' :: rest) (line :: lines)

theorem cut_linesFrom {current : List Char} (h : '\n' ∉ current) (s : List Char) :
    Cut (current.reverse ++ s) (linesFrom current s) := by
  induction s generalizing current with
  | nil =>
    rw [List.append_nil, linesFrom]
    cases current with
    | nil => exact .nil
    | cons c current => exact .last (by rwa [List.mem_reverse]) (by simp)
  | cons c r ih =>
    rw [linesFrom]
    split
    · next hc =>
      subst hc
      have hr : Cut r (linesFrom [] r) := ih List.not_mem_nil
      have hline : '\n' ∉ current.reverse := by rwa [List.mem_reverse]
      unfold dropReturn
      split
      · next hlast =>
        obtain ⟨line, hreturn⟩ := List.getLast?_eq_some_iff.mp hlast
        rw [hreturn] at hline ⊢
        rw [List.dropLast_concat, List.append_assoc]
        exact .returnFeed (fun hmem => hline (List.mem_append_left _ hmem)) hr
      · next hlast => exact .feed hline hlast hr
    · next hc =>
      have hmore : '\n' ∉ c :: current := List.not_mem_cons_of_ne_of_not_mem (Ne.symm hc) h
      simpa using ih hmore

/-- Reading on over characters that end no line. -/
theorem linesFrom_append {line : List Char} (h : '\n' ∉ line) (current s : List Char) :
    linesFrom current (line ++ s) = linesFrom (line.reverse ++ current) s := by
  induction line generalizing current with
  | nil => rfl
  | cons c line ih =>
    obtain ⟨hc, hline⟩ := not_or.mp (mt List.mem_cons.mpr h)
    rw [List.cons_append, linesFrom, if_neg (Ne.symm hc), ih hline, List.reverse_cons, List.append_assoc]
    rfl

/-- The first line of a text, where a line feed ends it. -/
theorem lines_append_feed {line : List Char} (h : '\n' ∉ line) (rest : List Char) :
    lines (line ++ '\n' :: rest) = dropReturn line :: lines rest := by
  rw [lines, linesFrom_append h, List.append_nil, linesFrom, if_pos rfl, List.reverse_reverse, lines]

theorem Cut.lines_eq {s : List Char} {cut : List (List Char)} (h : Cut s cut) : lines s = cut := by
  induction h with
  | nil => rfl
  | @last line h hne =>
    have hall := linesFrom_append h [] []
    rw [List.append_nil, List.append_nil] at hall
    rw [lines, hall, linesFrom]
    simp [hne]
  | feed h hend _ ih => rw [lines_append_feed h, dropReturn, if_neg hend, ih]
  | @returnFeed line rest _ h _ ih =>
    have hreturn : '\n' ∉ line ++ ['\r'] := by simpa using h
    rw [List.append_cons, lines_append_feed hreturn, dropReturn, if_pos (by simp),
      List.dropLast_concat, ih]

/-- The lines of a text are what it can be cut into. -/
theorem cut_iff {s : List Char} {cut : List (List Char)} : Cut s cut ↔ lines s = cut :=
  ⟨Cut.lines_eq, fun h => h ▸ cut_linesFrom List.not_mem_nil s⟩

theorem cut_lines (s : List Char) : Cut s (lines s) := cut_iff.mpr rfl

theorem Cut.not_mem {s line : List Char} {cut : List (List Char)} (h : Cut s cut) (hmem : line ∈ cut) :
    '\n' ∉ line := by
  induction h with
  | nil => cases hmem
  | last h _ =>
    obtain rfl := List.mem_singleton.mp hmem
    exact h
  | feed h _ _ ih =>
    obtain rfl | hmem := List.mem_cons.mp hmem
    · exact h
    · exact ih hmem
  | returnFeed h _ ih =>
    obtain rfl | hmem := List.mem_cons.mp hmem
    · exact h
    · exact ih hmem

theorem Cut.mem {c : Char} {s line : List Char} {cut : List (List Char)} (h : Cut s cut) (hline : line ∈ cut)
    (hc : c ∈ line) : c ∈ s := by
  induction h with
  | nil => cases hline
  | last _ _ =>
    obtain rfl := List.mem_singleton.mp hline
    exact hc
  | feed _ _ _ ih =>
    obtain rfl | hline := List.mem_cons.mp hline
    · exact List.mem_append_left _ hc
    · exact List.mem_append_right _ (List.mem_cons_of_mem _ (ih hline))
  | returnFeed _ _ ih =>
    obtain rfl | hline := List.mem_cons.mp hline
    · exact List.mem_append_left _ hc
    · exact List.mem_append_right _ (List.mem_cons_of_mem _ (List.mem_cons_of_mem _ (ih hline)))

theorem Cut.length_le {s line : List Char} {cut : List (List Char)} (h : Cut s cut) (hline : line ∈ cut) :
    line.length ≤ s.length := by
  induction h with
  | nil => cases hline
  | last _ _ =>
    obtain rfl := List.mem_singleton.mp hline
    exact Nat.le_refl _
  | feed _ _ _ ih =>
    rw [List.length_append, List.length_cons]
    obtain rfl | hline := List.mem_cons.mp hline
    · omega
    · have := ih hline
      omega
  | returnFeed _ _ ih =>
    rw [List.length_append, List.length_cons, List.length_cons]
    obtain rfl | hline := List.mem_cons.mp hline
    · omega
    · have := ih hline
      omega

/-! ## Lines written and read again -/

/-- The text of some lines, each with a line feed after it. -/
def unlines (ls : List (List Char)) : List Char := ls.flatMap fun line => line ++ ['\n']

theorem unlines_cons (line : List Char) (ls : List (List Char)) :
    unlines (line :: ls) = line ++ '\n' :: unlines ls := by
  simp [unlines]

theorem ofList_unlines (ls : List (List Char)) :
    String.ofList (unlines ls) = String.join (ls.map fun line => String.ofList line ++ "\n") := by
  induction ls with
  | nil => rfl
  | cons line ls ih =>
    rw [List.map_cons, String.join_cons, ← ih, unlines_cons, ← String.toList_inj]
    simp

/-- A line that ends with a carriage return loses it when it is written and read again. -/
theorem lines_unlines {ls : List (List Char)} (h : ∀ line ∈ ls, '\n' ∉ line) :
    lines (unlines ls) = ls.map dropReturn := by
  induction ls with
  | nil => rfl
  | cons line ls ih =>
    rw [unlines_cons, lines_append_feed (h line List.mem_cons_self),
      ih fun other hother => h other (List.mem_cons_of_mem _ hother), List.map_cons]

/-- A text without the carriage returns that stand just before a line feed. -/
def dropReturns : List Char → List Char
  | [] => []
  | c :: r => if c = '\r' ∧ r.head? = some '\n' then dropReturns r else c :: dropReturns r

theorem dropReturn_cons_cons (c d : Char) (line : List Char) :
    dropReturn (c :: d :: line) = c :: dropReturn (d :: line) := by
  rw [dropReturn, dropReturn, List.getLast?_cons_cons]
  split <;> rfl

theorem dropReturns_append_feed {line : List Char} (h : '\n' ∉ line) (rest : List Char) :
    dropReturns (line ++ '\n' :: rest) = dropReturn line ++ '\n' :: dropReturns rest := by
  induction line with
  | nil => simp [dropReturns, dropReturn]
  | cons c line ih =>
    rw [List.cons_append, dropReturns]
    obtain ⟨-, hline⟩ := not_or.mp (mt List.mem_cons.mpr h)
    cases line with
    | nil =>
      by_cases hc : c = '\r'
      · simp [hc, dropReturns, dropReturn]
      · simp [hc, dropReturns, dropReturn]
    | cons d line =>
      have hd : d ≠ '\n' := fun hd => hline (hd ▸ List.mem_cons_self)
      rw [if_neg (by simp [hd]), ih hline, dropReturn_cons_cons, List.cons_append]

/-- Dropping the returns of a text of lines drops the one at the end of each line. -/
theorem dropReturns_unlines {ls : List (List Char)} (h : ∀ line ∈ ls, '\n' ∉ line) :
    dropReturns (unlines ls) = unlines (ls.map dropReturn) := by
  induction ls with
  | nil => rfl
  | cons line ls ih =>
    rw [unlines_cons, dropReturns_append_feed (h line List.mem_cons_self),
      ih fun other hother => h other (List.mem_cons_of_mem _ hother), List.map_cons, unlines_cons]

theorem dropReturns_sublist (s : List Char) : (dropReturns s).Sublist s := by
  induction s with
  | nil => exact .slnil
  | cons c r ih =>
    rw [dropReturns]
    split
    · exact ih.cons c
    · exact ih.cons_cons c

/-- A text stays as it is if no carriage return stands just before a line feed. -/
theorem dropReturns_eq_self_iff (s : List Char) : dropReturns s = s ↔ ¬ ['\r', '\n'] <:+: s := by
  induction s with
  | nil => simp [dropReturns]
  | cons c r ih =>
    have hprefix : ['\r', '\n'] <+: c :: r ↔ c = '\r' ∧ r.head? = some '\n' := by
      cases r <;> simp [eq_comm]
    rw [dropReturns, List.infix_cons_iff, hprefix]
    split
    · next hdrop =>
      have hshort : (dropReturns r).length ≤ r.length := (dropReturns_sublist r).length_le
      simp only [hdrop, and_self, true_or, not_true, iff_false]
      intro heq
      rw [heq, List.length_cons] at hshort
      omega
    · next hkeep => simp [hkeep, ih]

/-- The carriage return at the end of a line is white space. -/
theorem trim_dropReturn (line : List Char) : trim (dropReturn line) = trim line := by
  rw [dropReturn]
  split
  · next hlast =>
    obtain ⟨front, rfl⟩ := List.getLast?_eq_some_iff.mp hlast
    rw [List.dropLast_concat, trim_append (List.forall_mem_singleton.mpr rfl)]
  · rfl

/-! ## Pieces -/

theorem splitFrom_eq (d : Char) (current s : List Char) :
    splitFrom d current s = List.splitOnPPrepend (· == d) s current := by
  induction s generalizing current with
  | nil => rfl
  | cons c r ih =>
    by_cases h : c = d
    · rw [splitFrom, if_pos h, ih, List.splitOnPPrepend_cons_pos (by simpa using h)]
      rfl
    · rw [splitFrom, if_neg h, ih, List.splitOnPPrepend_cons_neg (by simpa using h)]

theorem split_eq_splitOn (d : Char) (s : List Char) : split d s = s.splitOn d := splitFrom_eq d [] s

/-- A character that separates nothing is in one of the pieces. -/
theorem exists_mem_splitFrom {c d : Char} (hne : c ≠ d) {current s : List Char} (hc : c ∈ current ∨ c ∈ s) :
    ∃ piece ∈ splitFrom d current s, c ∈ piece := by
  induction s generalizing current with
  | nil =>
    have hcurrent : c ∈ current := hc.resolve_right List.not_mem_nil
    exact ⟨current.reverse, List.mem_singleton.mpr rfl, List.mem_reverse.mpr hcurrent⟩
  | cons e r ih =>
    rw [splitFrom]
    split
    · next he =>
      rcases hc with hc | hc
      · exact ⟨current.reverse, List.mem_cons_self, List.mem_reverse.mpr hc⟩
      · have hr : c ∈ r := (List.mem_cons.mp hc).resolve_left (he ▸ hne)
        obtain ⟨piece, hpiece, hmem⟩ := ih (.inr hr)
        exact ⟨piece, List.mem_cons_of_mem _ hpiece, hmem⟩
    · refine ih ?_
      rcases hc with hc | hc
      · exact .inl (List.mem_cons_of_mem _ hc)
      · rcases List.mem_cons.mp hc with rfl | hc
        · exact .inl List.mem_cons_self
        · exact .inr hc

/-- A text is its pieces with the separator between them. -/
theorem intercalate_split (d : Char) (s : List Char) : [d].intercalate (split d s) = s := by
  rw [split_eq_splitOn, List.intercalate_splitOn]

/-- White space that follows a text is part of its last piece, and is trimmed there. -/
theorem map_trim_splitFrom_append {c d : Char} (hblank : isBlank c = true) (hne : c ≠ d)
    (current s : List Char) :
    (splitFrom d current (s ++ [c])).map trim = (splitFrom d current s).map trim := by
  induction s generalizing current with
  | nil =>
    have hlast : trim (current.reverse ++ [c]) = trim current.reverse := trim_append (by simpa) _
    simp [splitFrom, hne, hlast]
  | cons e s ih =>
    rw [List.cons_append, splitFrom, splitFrom]
    split
    · rw [List.map_cons, List.map_cons, ih]
    · exact ih _

/-- The pieces of a line are the same without the carriage return that ends it, but for white space. -/
theorem map_trim_split_dropReturn {d : Char} (hne : '\r' ≠ d) (line : List Char) :
    (split d (dropReturn line)).map trim = (split d line).map trim := by
  rw [dropReturn]
  split
  · next hlast =>
    obtain ⟨front, rfl⟩ := List.getLast?_eq_some_iff.mp hlast
    rw [List.dropLast_concat]
    exact (map_trim_splitFrom_append (by decide) hne [] front).symm
  · rfl

end Text

namespace Table

/-- The cells of a line, with the delimiter between them, are the line. -/
theorem intercalate_cells (delimiter : Char) (line : List Char) :
    String.intercalate (String.singleton delimiter) (cells delimiter line) = String.ofList line := by
  rw [← String.toList_inj, String.toList_intercalate, cells, List.map_map, String.toList_ofList]
  simpa [Function.comp_def] using Text.intercalate_split delimiter line

/-- The cells of a line determine it. -/
theorem cells_injective (delimiter : Char) : Function.Injective (cells delimiter) := fun line line' h => by
  have htext := intercalate_cells delimiter line
  rw [h, intercalate_cells] at htext
  exact (String.ofList_injective htext).symm

/-- A row of a table that was read from a line is written as that line. -/
theorem join_cells (table : Table) (line : List Char) :
    table.join (cells table.delimiter line) = String.ofList line :=
  intercalate_cells table.delimiter line

/-- The cells of a line are the same without the carriage return that ends it, but for white space. -/
theorem map_trimmed_cells_dropReturn {delimiter : Char} (hne : '\r' ≠ delimiter) (line : List Char) :
    (cells delimiter (Text.dropReturn line)).map Text.trimmed =
      (cells delimiter line).map Text.trimmed := by
  have htrimmed : Text.trimmed ∘ String.ofList = String.ofList ∘ Text.trim :=
    funext fun piece => by rw [Function.comp_apply, Text.trimmed, String.toList_ofList, Function.comp_apply]
  rw [cells, cells, List.map_map, List.map_map, htrimmed, ← List.map_map, ← List.map_map,
    Text.map_trim_split_dropReturn hne]

/-- The lines of a text that count. -/
def linesOf (text : String) : List (List Char) :=
  (Text.lines text.toList).filter fun line => !(Text.trim line).isEmpty

theorem header_parse (text : String) (delimiter : Char) (hasHeader : Bool) :
    (parse text delimiter hasHeader).header =
      if hasHeader then ((linesOf text).head?).map (cells delimiter) else none := by
  cases hasHeader
  · rfl
  · rw [← List.head?_map]
    rfl

theorem rows_parse (text : String) (delimiter : Char) (hasHeader : Bool) :
    (parse text delimiter hasHeader).rows =
      (if hasHeader then (linesOf text).tail else linesOf text).map (cells delimiter) := by
  cases hasHeader
  · rfl
  · rw [if_pos rfl, List.map_tail]
    rfl

theorem delimiter_parse (text : String) (delimiter : Char) (hasHeader : Bool) :
    (parse text delimiter hasHeader).delimiter = delimiter := by
  cases hasHeader <;> rfl

end Table
end RowQuery
