import Mathlib
import RowQuery.Proofs.Directory.Construction
import RowQuery.Table

/-!
The columns of a table.

* `Directory.declarationsOf`: names, declared with the indices from 1 on.
* `Directory.compatible_declarationsOf_iff`: names that are not empty and differ make a directory.
* `Table.Repeats`, `Table.TakesNumber`: two ways for the cells of a header to clash.
* `Table.not_nodup_columnNames_iff`: the names of the columns differ unless cells clash in one of these ways.
* `Table.directory_parse`: which tables have columns, and how many.

A blank cell is named by the number of its column, and nothing keeps another cell from being that number.
-/
namespace RowQuery

/-! ## Columns of given names -/

namespace Directory

variable {names : List String} {directory : Directory} {e : DirectoryError}

/-- Columns of the given names, with the indices from 1 on. -/
def declarationsOf (names : List String) : List Declaration :=
  names.zipIdx.map fun (name, i) => .column name none (some (i + 1))

theorem ofNames_eq (names : List String) : ofNames names = build (declarationsOf names) := rfl

theorem mem_declarationsOf {declaration : Declaration} (h : declaration ∈ declarationsOf names) :
    ∃ name ∈ names, ∃ i, declaration = .column name none (some (i + 1)) := by
  obtain ⟨⟨name, i⟩, hmem, rfl⟩ := List.mem_map.mp h
  exact ⟨name, List.fst_mem_of_mem_zipIdx hmem, i, rfl⟩

theorem map_names_declarationsOf (names : List String) :
    (declarationsOf names).map Declaration.names = names.map fun name => [name] := by
  rw [declarationsOf, List.map_map]
  conv => rhs; rw [← List.zipIdx_map_fst 0 names, List.map_map]
  rfl

theorem map_index?_declarationsOf (names : List String) :
    (declarationsOf names).map Declaration.index? = (List.range names.length).map fun i => some (i + 1) := by
  rw [declarationsOf, List.map_map, List.range_eq_range', ← List.zipIdx_map_snd 0 names, List.map_map]
  rfl

/-- The indices of such columns always differ. -/
theorem pairwise_index_declarationsOf (names : List String) :
    (declarationsOf names).Pairwise fun declaration other =>
      ∀ index, declaration.index? = some index → other.index? ≠ some index := by
  have hindices : ((declarationsOf names).map Declaration.index?).Pairwise fun index? other =>
      ∀ index, index? = some index → other ≠ some index := by
    rw [map_index?_declarationsOf, List.pairwise_map]
    refine List.nodup_range.imp fun hne index hi hi' => hne ?_
    exact Nat.succ.inj (Option.some.inj (hi.trans hi'.symm))
  exact List.pairwise_map.mp hindices

theorem pairwise_declarationsOf_iff :
    (declarationsOf names).Pairwise Declaration.Apart ↔ names.Nodup := by
  have hnames : ((declarationsOf names).map Declaration.names).Pairwise (fun own other =>
      ∀ name ∈ own, name ∉ other) ↔ names.Nodup := by
    rw [map_names_declarationsOf, List.pairwise_map]
    simp [List.Nodup]
  rw [← hnames, List.pairwise_map]
  constructor
  · intro h
    exact h.imp fun hapart => hapart.names
  · intro h
    exact (h.and (pairwise_index_declarationsOf names)).imp fun hapart => ⟨hapart.1, hapart.2⟩

/-- Names that are not empty and differ make a directory. -/
theorem compatible_declarationsOf_iff : Compatible (declarationsOf names) ↔ "" ∉ names ∧ names.Nodup := by
  constructor
  · intro h
    refine ⟨fun hempty => ?_, pairwise_declarationsOf_iff.mp h.apart⟩
    obtain ⟨i, hi⟩ := List.mem_iff_getElem?.mp hempty
    exact h.named none (some (i + 1)) (List.mem_map.mpr ⟨("", i), List.mem_zipIdx_iff_getElem?.mpr hi, rfl⟩)
  · rintro ⟨hempty, hnodup⟩
    refine ⟨fun fullName index hmem => ?_, pairwise_declarationsOf_iff.mpr hnodup⟩
    obtain ⟨name, hname, i, heq⟩ := mem_declarationsOf hmem
    cases heq
    exact hempty hname

theorem exists_ofNames_iff : (∃ directory, ofNames names = .ok directory) ↔ "" ∉ names ∧ names.Nodup :=
  exists_build_iff.trans compatible_declarationsOf_iff

/-- If no name is empty, the columns can fail only for a name that is given twice. -/
theorem duplicateColumn_of_ofNames (hempty : "" ∉ names) (h : ofNames names = .error e) :
    ∃ name, e = .duplicateColumn name := by
  rw [ofNames_eq, build_eq_error_iff] at h
  obtain ⟨before, declaration, after, heq, -, ho⟩ := h
  have hmem : declaration ∈ declarationsOf names := heq ▸ List.mem_append_right _ List.mem_cons_self
  obtain ⟨name, hname, i, rfl⟩ := mem_declarationsOf hmem
  cases ho with
  | emptyName => exact absurd hname hempty
  | name => exact ⟨name, rfl⟩
  | index _ _ htaken =>
    obtain ⟨earlier, hearlier, hindex⟩ := htaken
    have hapart := pairwise_index_declarationsOf names
    rw [heq] at hapart
    exact absurd rfl ((List.pairwise_append.mp hapart).2.2 earlier hearlier _ List.mem_cons_self _ hindex)

theorem length_columns_of_ofNames (h : ofNames names = .ok directory) :
    directory.columns.length = names.length := by
  rw [ofNames_eq] at h
  have hcolumns := congrArg List.length (built_of_build h).columns_eq
  have hall : (declarationsOf names).filter Declaration.isColumn = declarationsOf names := by
    refine List.filter_eq_self.mpr fun declaration hd => ?_
    obtain ⟨name, -, i, rfl⟩ := mem_declarationsOf hd
    rfl
  rwa [hall, List.length_map, declarationsOf, List.length_map, List.length_zipIdx] at hcolumns

end Directory

/-! ## Names of columns -/

namespace Table

/-- Two cells of a header are equal and not blank, once they are trimmed. -/
def Repeats (header : List String) : Prop :=
  ∃ (i j : Nat) (cell other : String), i ≠ j ∧ header[i]? = some cell ∧ header[j]? = some other ∧
    Text.trimmed cell = Text.trimmed other ∧ Text.trimmed cell ≠ ""

/-- A cell of a header is blank, and another cell is the number of its column. -/
def TakesNumber (header : List String) : Prop :=
  ∃ (i j : Nat) (cell other : String), i ≠ j ∧ header[i]? = some cell ∧ header[j]? = some other ∧
    Text.trimmed cell = "" ∧ Text.trimmed other = (i + 1).repr

/-- The name of a column by its cell in the header and its place. -/
def nameOf (cell : String) (i : Nat) : String :=
  if (Text.trimmed cell).isEmpty then (i + 1).repr else Text.trimmed cell

variable {table : Table} {header : List String} {cell other : String} {i j : Nat}

theorem nameOf_of_blank (h : Text.trimmed cell = "") : nameOf cell i = (i + 1).repr :=
  if_pos (String.isEmpty_iff.mpr h)

theorem nameOf_of_ink (h : Text.trimmed cell ≠ "") : nameOf cell i = Text.trimmed cell :=
  if_neg (mt String.isEmpty_iff.mp h)

theorem nameOf_ne_empty (cell : String) (i : Nat) : nameOf cell i ≠ "" := by
  by_cases h : Text.trimmed cell = ""
  · rw [nameOf_of_blank h]
    exact Nat.repr_ne_empty
  · rwa [nameOf_of_ink h]

/-- Two columns get one name in three ways. That both are blank is none of them: they get their numbers. -/
theorem nameOf_eq_iff (hne : i ≠ j) : nameOf cell i = nameOf other j ↔
    Text.trimmed cell = Text.trimmed other ∧ Text.trimmed cell ≠ "" ∨
      Text.trimmed cell = "" ∧ Text.trimmed other = (i + 1).repr ∨
      Text.trimmed other = "" ∧ Text.trimmed cell = (j + 1).repr := by
  have hempty (n : Nat) : "" ≠ n.repr := Nat.repr_ne_empty.symm
  by_cases hcell : Text.trimmed cell = ""
  · by_cases hother : Text.trimmed other = ""
    · have hnumbers : (i + 1).repr ≠ (j + 1).repr := fun h => hne (Nat.succ.inj (Nat.repr_injective h))
      rw [nameOf_of_blank hcell, nameOf_of_blank hother, hcell, hother]
      simp [hnumbers, hempty]
    · rw [nameOf_of_blank hcell, nameOf_of_ink hother, hcell]
      simp only [hother, ne_eq, not_true, and_false, true_and, false_and, or_false, false_or]
      exact eq_comm
  · by_cases hother : Text.trimmed other = ""
    · rw [nameOf_of_ink hcell, nameOf_of_blank hother, hother]
      simp [hcell]
    · rw [nameOf_of_ink hcell, nameOf_of_ink hother]
      simp [hcell, hother]

theorem columnNames_eq (h : table.header = some header) :
    table.columnNames = header.zipIdx.map fun (cell, i) => nameOf cell i := by
  rw [columnNames, h]
  rfl

theorem columnNames_of_no_header (h : table.header = none) :
    table.columnNames = (List.range table.width).map fun i => (i + 1).repr := by
  rw [columnNames, h]

theorem length_columnNames (table : Table) : table.columnNames.length = table.width := by
  cases h : table.header with
  | none => rw [columnNames_of_no_header h, List.length_map, List.length_range]
  | some header => rw [columnNames_eq h, List.length_map, List.length_zipIdx, width, h]

theorem empty_not_mem_columnNames (table : Table) : "" ∉ table.columnNames := by
  intro hmem
  cases h : table.header with
  | none =>
    rw [columnNames_of_no_header h] at hmem
    obtain ⟨i, -, hi⟩ := List.mem_map.mp hmem
    exact Nat.repr_ne_empty hi
  | some header =>
    rw [columnNames_eq h] at hmem
    obtain ⟨⟨cell, i⟩, -, hi⟩ := List.mem_map.mp hmem
    exact nameOf_ne_empty cell i hi

theorem nodup_columnNames_of_no_header (h : table.header = none) : table.columnNames.Nodup := by
  rw [columnNames_of_no_header h]
  exact List.pairwise_map.mpr (List.nodup_range.imp fun hne heq => hne (Nat.succ.inj (Nat.repr_injective heq)))

theorem getElem?_columnNames (h : table.header = some header) (i : Nat) :
    table.columnNames[i]? = (header[i]?).map fun cell => nameOf cell i := by
  rw [columnNames_eq h, List.getElem?_map, List.getElem?_zipIdx]
  cases header[i]? with
  | none => rfl
  | some cell => simp

/-- The names of the columns differ if columns in different places have different names. -/
theorem nodup_columnNames_iff (h : table.header = some header) : table.columnNames.Nodup ↔
    ∀ i j cell other, i ≠ j → header[i]? = some cell → header[j]? = some other →
      nameOf cell i ≠ nameOf other j := by
  have hlength : table.columnNames.length = header.length := by
    rw [length_columnNames, width, h]
  constructor
  · intro hnodup i j cell other hne hi hj heq
    have hlt : i < table.columnNames.length := hlength ▸ (List.getElem?_eq_some_iff.mp hi).1
    refine hne ((List.getElem?_inj hlt hnodup).mp ?_)
    rw [getElem?_columnNames h, getElem?_columnNames h, hi, hj, Option.map_some, Option.map_some, heq]
  · intro hdiffer
    refine List.nodup_iff_getElem?_ne_getElem?.mpr fun i j hij hj heq => ?_
    obtain ⟨cell, hcell⟩ : ∃ cell, header[i]? = some cell := ⟨_, List.getElem?_eq_getElem (by omega)⟩
    obtain ⟨other, hother⟩ : ∃ other, header[j]? = some other := ⟨_, List.getElem?_eq_getElem (by omega)⟩
    rw [getElem?_columnNames h, getElem?_columnNames h, hcell, hother] at heq
    exact hdiffer i j cell other (Nat.ne_of_lt hij) hcell hother (Option.some.inj heq)

/-- They differ unless two cells clash. -/
theorem not_nodup_columnNames_iff (h : table.header = some header) :
    ¬ table.columnNames.Nodup ↔ Repeats header ∨ TakesNumber header := by
  rw [nodup_columnNames_iff h]
  push Not
  constructor
  · rintro ⟨i, j, cell, other, hne, hi, hj, heq⟩
    rcases (nameOf_eq_iff hne).mp heq with hclash | hclash | hclash
    · exact .inl ⟨i, j, cell, other, hne, hi, hj, hclash⟩
    · exact .inr ⟨i, j, cell, other, hne, hi, hj, hclash⟩
    · exact .inr ⟨j, i, other, cell, hne.symm, hj, hi, hclash⟩
  · rintro (⟨i, j, cell, other, hne, hi, hj, hclash⟩ | ⟨i, j, cell, other, hne, hi, hj, hclash⟩)
    · exact ⟨i, j, cell, other, hne, hi, hj, (nameOf_eq_iff hne).mpr (.inl hclash)⟩
    · exact ⟨i, j, cell, other, hne, hi, hj, (nameOf_eq_iff hne).mpr (.inr (.inl hclash))⟩

theorem exists_directory_iff : (∃ directory, table.directory = .ok directory) ↔ table.columnNames.Nodup :=
  Directory.exists_ofNames_iff.trans (and_iff_right table.empty_not_mem_columnNames)

/-- A table fails to have columns exactly if it has a header in which two columns get one name. -/
theorem exists_error_iff : (∃ e, table.directory = .error e) ↔
    ∃ header, table.header = some header ∧ (Repeats header ∨ TakesNumber header) := by
  have hfails : (∃ e, table.directory = .error e) ↔ ¬ table.columnNames.Nodup := by
    rw [← exists_directory_iff]
    cases table.directory with
    | error e => simp
    | ok directory => simp
  rw [hfails]
  cases h : table.header with
  | none => simp [nodup_columnNames_of_no_header h]
  | some header => simp [not_nodup_columnNames_iff h]

/-- A table has columns unless it has a header in which two cells are the same name, or one is the number of a
column that has no name. The columns are as many as the table is wide. -/
theorem directory_parse (text : String) (delimiter : Char) (hasHeader : Bool) :
    let table := parse text delimiter hasHeader
    ((∃ e, table.directory = .error e) ↔
      ∃ header, table.header = some header ∧ (Repeats header ∨ TakesNumber header)) ∧
    (∀ e, table.directory = .error e → ∃ name, e = .duplicateColumn name) ∧
    (table.header = none → ∃ directory, table.directory = .ok directory) ∧
    ∀ directory, table.directory = .ok directory → directory.columns.length = table.width := by
  intro table
  refine ⟨exists_error_iff, fun e h => ?_, fun hheader => ?_, fun directory h => ?_⟩
  · exact Directory.duplicateColumn_of_ofNames table.empty_not_mem_columnNames h
  · exact exists_directory_iff.mpr (nodup_columnNames_of_no_header hheader)
  · rw [Directory.length_columns_of_ofNames h, length_columnNames]

/-- A blank cell makes a table without columns if another cell is the number of its column, though no two cells
that are not blank are equal. -/
theorem not_directory_of_blank_cell :
    (∃ e, (parse "2\t \n" '\t' true).directory = .error e) ∧
    (parse "2\t \n" '\t' true).header = some ["2", " "] ∧ ¬ Repeats ["2", " "] := by
  refine ⟨⟨.duplicateColumn "2", by decide +kernel⟩, by decide +kernel, ?_⟩
  have hblank : Text.trimmed " " = "" := by decide
  rintro ⟨i, j, cell, other, hne, hi, hj, heq, hcell⟩
  have hfirst {i : Nat} {cell : String} (hi : ["2", " "][i]? = some cell) (hcell : Text.trimmed cell ≠ "") :
      i = 0 := by
    match i with
    | 0 => rfl
    | 1 =>
      cases hi
      exact absurd hblank hcell
    | _ + 2 => cases hi
  exact hne ((hfirst hi hcell).trans (hfirst hj (heq ▸ hcell)).symm)

end Table
end RowQuery
