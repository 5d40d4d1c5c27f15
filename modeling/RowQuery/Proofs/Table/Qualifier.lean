import RowQuery.Proofs.Query.Trimming
import RowQuery.Proofs.Table.Columns
import RowQuery.Proofs.Text.Lines

/-!
How the columns of a table are named in a query.

* `Directory.numeral`: the index of a column behind so many zeros that it is longer than every name.
* `Directory.Built.resolve?_numeral`: it stands for the column with this index.
* `Grammar.parse?_column_word`: a column, a space and a word make one term.
* `Table.width_parse_le`: a table is not much wider than its text is long.
* `Table.exists_qualifier`: every column of a table can be named in a query.

A name may have white space or a colon in it, or begin with a quotation mark, and then it cannot be written
after a colon as it is. The index can, but another column may be called like it. Zeros before the index change
nothing but its length, and no column has a longer name than the longest.
-/
namespace RowQuery

/-! ## Numerals that are no names -/

namespace Directory

variable {declarations : List Declaration} {directory : Directory} {column : Column} {names : List String}
  {index : Nat}

/-- No name is longer than this. -/
def longest (directory : Directory) : Nat :=
  ((directory.columns.flatMap Column.names).map String.length).sum

theorem length_le_longest (hc : column ∈ directory.columns) {name : String} (hn : name ∈ column.names) :
    name.length ≤ directory.longest :=
  List.le_sum_of_mem (List.mem_map_of_mem (List.mem_flatMap.mpr ⟨column, hc, hn⟩))

/-- The numeral of an index with more zeros before it than any name has characters. -/
def numeral (directory : Directory) (index : Nat) : String :=
  String.ofList (List.replicate directory.longest '0' ++ Nat.toDigits 10 index)

theorem isNumeral_numeral (directory : Directory) (index : Nat) :
    Text.IsNumeral (directory.numeral index).toList index :=
  ⟨directory.longest, String.toList_ofList⟩

theorem numeral_not_mem_names (hc : column ∈ directory.columns) : directory.numeral index ∉ column.names := by
  intro hn
  have hle : (directory.numeral index).length ≤ directory.longest := length_le_longest hc hn
  have hdigits : 0 < (Nat.toDigits 10 index).length := Nat.length_toDigits_pos
  rw [numeral, String.length_ofList, List.length_append, List.length_replicate] at hle
  omega

/-- A column is found by this numeral of its index. -/
theorem Built.resolve?_numeral (h : Built declarations directory) (hc : column ∈ directory.columns)
    (hindex : column.index = some index) (hlt : index < UInt64.size) :
    directory.resolve? (directory.numeral index) = some column :=
  (h.resolve?_eq_some_iff fun _ hother => numeral_not_mem_names hother).mpr
    ⟨hc, index, hlt, hindex, directory.isNumeral_numeral index⟩

theorem built_of_ofNames (h : ofNames names = .ok directory) : Built (declarationsOf names) directory :=
  built_of_build h

/-- The columns of given names have the indices from 1 on. -/
theorem exists_index_of_ofNames (h : ofNames names = .ok directory) (hc : column ∈ directory.columns) :
    ∃ i < names.length, column.index = some (i + 1) := by
  have hplaced := (built_of_ofNames h).placed column hc
  obtain ⟨⟨name, i⟩, hmem, heq⟩ := List.mem_map.mp (List.mem_of_getElem? hplaced)
  refine ⟨i, ?_, (Declaration.column.inj heq).2.2.symm⟩
  exact (List.getElem?_eq_some_iff.mp (List.mem_zipIdx_iff_getElem?.mp hmem)).1

end Directory

/-! ## Keys before words -/

/-- A digit is none of the characters that a key cannot have, or cannot begin with. -/
theorem Text.plain_of_isDigit {c : Char} (h : c.isDigit = true) : c ≠ ':' ∧ c ≠ '"' ∧ isBlank c = false := by
  obtain ⟨d, hd, rfl⟩ := exists_digitChar h
  have hall : ∀ d < 10, Nat.digitChar d ≠ ':' ∧ Nat.digitChar d ≠ '"' ∧ isBlank (Nat.digitChar d) = false := by
    decide
  exact hall d hd

namespace Grammar

variable {directory : Directory} {key word : String} {k : List Char}

theorem spellsColumn_of_isNumeral {index : Nat} (hkey : Text.IsNumeral key.toList index)
    (hknown : isKnown directory key = true) : SpellsColumn directory key (':' :: key.toList) := by
  refine .name hknown hkey.ne_nil (fun c hc => ?_) fun hquote => ?_
  · obtain ⟨hcolon, -, hblank⟩ := Text.plain_of_isDigit (hkey.isDigit hc)
    exact ⟨hcolon, hblank⟩
  · obtain ⟨-, hne, -⟩ := Text.plain_of_isDigit (hkey.isDigit (List.mem_of_mem_head? hquote))
    exact hne rfl

/-- A column, a space and a word make one term. -/
theorem parse?_column_word (hk : SpellsColumn directory key k) (hword : IsWord word.toList)
    (hnot : Token.not.regex.isMatch word.toList = false) (diagnostics : Diagnostics) :
    parse? diagnostics directory (k ++ (' ' :: word.toList)) = some [⟨some key, .word, word, false⟩] := by
  have hgap : Text.Gap [' '] := ⟨List.cons_ne_nil _ _, by simp [Text.Blank, Text.isBlank]⟩
  have hspells := SpellsTerms.one (.column hk hgap (.word hword hnot))
  obtain ⟨hchain, -⟩ := hspells.chain (w := []) (by simp [Text.Blank])
  rw [List.append_nil] at hchain
  exact (parse?_iff _ _ _ _).mpr ⟨List.cons_ne_nil _ _, hchain⟩

end Grammar

/-! ## Tables -/

namespace Table

theorem length_cells_le (delimiter : Char) (line : List Char) :
    (cells delimiter line).length ≤ line.length + 1 := by
  rw [cells, List.length_map, Text.length_split]
  exact Nat.succ_le_succ List.count_le_length

theorem length_cells_le_of_mem_linesOf {text : String} {line : List Char} (h : line ∈ linesOf text)
    (delimiter : Char) : (cells delimiter line).length ≤ text.toList.length + 1 := by
  have hline : line.length ≤ text.toList.length :=
    (Text.cut_lines text.toList).length_le (List.mem_filter.mp h).1
  have hcells := length_cells_le delimiter line
  omega

/-- Neither a header nor a row has more cells than the text has characters, and one. -/
theorem width_parse_le (text : String) (delimiter : Char) (hasHeader : Bool) :
    (parse text delimiter hasHeader).width ≤ text.toList.length + 1 := by
  rw [width]
  split
  · next header hheader =>
    rw [header_parse] at hheader
    split at hheader
    · obtain ⟨line, hline, rfl⟩ := Option.map_eq_some_iff.mp hheader
      exact length_cells_le_of_mem_linesOf (List.mem_of_mem_head? hline) delimiter
    · cases hheader
  · show List.foldl max 0 _ ≤ _
    rw [List.foldl_max, Nat.zero_max]
    cases hmax : ((parse text delimiter hasHeader).rows.map List.length).max? with
    | none => exact Nat.zero_le _
    | some n =>
      obtain ⟨row, hrow, rfl⟩ := List.mem_map.mp (List.max?_mem hmax)
      rw [rows_parse] at hrow
      obtain ⟨line, hline, rfl⟩ := List.mem_map.mp hrow
      have hmem : line ∈ linesOf text := by
        split at hline
        · exact List.mem_of_mem_tail hline
        · exact hline
      exact length_cells_le_of_mem_linesOf hmem delimiter

/-- Every column of a table has a key that can be written after a colon as it is and stands for the column:
with it before any word but `NOT` a query reads as the word in this column. Indices have 64 bits, and no text in
memory is so long that they do not suffice. -/
theorem exists_qualifier {text : String} {delimiter : Char} {hasHeader : Bool} {directory : Directory}
    {column : Column} (hsize : Text.size text.toList < 2 ^ 63)
    (h : (parse text delimiter hasHeader).directory = .ok directory) (hc : column ∈ directory.columns) :
    ∃ key : String, (key.toList ≠ [] ∧ ∀ c ∈ key.toList, c ≠ ':' ∧ Text.isBlank c = false) ∧
      directory.resolve? key = some column ∧
      ∀ word : String, Grammar.IsWord word.toList → Token.not.regex.isMatch word.toList = false →
        ∀ diagnostics, Query.parse diagnostics directory (":" ++ key ++ " " ++ word) =
          .ok [⟨some key, .word, word, false⟩] := by
  obtain ⟨i, hi, hindex⟩ := Directory.exists_index_of_ofNames h hc
  have hlt : i + 1 < UInt64.size := by
    have hwidth := width_parse_le text delimiter hasHeader
    have hlength := Text.length_le_size text.toList
    have hlimit : 2 ^ 63 < UInt64.size := by decide
    rw [length_columnNames] at hi
    omega
  have hresolve := (Directory.built_of_ofNames h).resolve?_numeral hc hindex hlt
  have hnumeral := directory.isNumeral_numeral (i + 1)
  have hcolumn := Grammar.spellsColumn_of_isNumeral hnumeral (by rw [Grammar.isKnown, hresolve]; rfl)
  refine ⟨directory.numeral (i + 1), ⟨hnumeral.ne_nil, fun c hmem => ?_⟩, hresolve,
    fun word hword hnot diagnostics => ?_⟩
  · obtain ⟨hcolon, -, hblank⟩ := Text.plain_of_isDigit (hnumeral.isDigit hmem)
    exact ⟨hcolon, hblank⟩
  · rw [Query.parse_eq_ok_iff, ← Grammar.parse?_column_word hcolumn hword hnot diagnostics]
    simp [String.toList_append]

/-- In a table with the columns `a:b` and `1` there is a key for the first. Its index is the name of the
second. -/
theorem exists_qualifier_of_taken_index :
    let column : Column := ⟨"a:b", none, some 1, 0, 1⟩
    let directory : Directory := ⟨[column, ⟨"1", none, some 2, 1, 2⟩]⟩
    (parse "a:b,1\nx,y\n" ',' true).directory = .ok directory ∧ directory.resolve? "1" ≠ some column ∧
      ∃ key, directory.resolve? key = some column ∧
        Query.parse .silent directory (":" ++ key ++ " " ++ "x") = .ok [⟨some key, .word, "x", false⟩] := by
  intro column directory
  have hdirectory : (parse "a:b,1\nx,y\n" ',' true).directory = .ok directory := by decide +kernel
  have hsize : Text.size "a:b,1\nx,y\n".toList < 2 ^ 63 := by decide +kernel
  have hcolumn : column ∈ directory.columns := by decide
  obtain ⟨key, -, hresolve, hparse⟩ := exists_qualifier hsize hdirectory hcolumn
  have hword : Grammar.IsWord "x".toList := ⟨by decide, fun c hc => by
    obtain rfl := List.mem_singleton.mp hc
    decide⟩
  exact ⟨hdirectory, by decide, key, hresolve, hparse "x" hword (by decide +kernel) .silent⟩

end Table
end RowQuery
