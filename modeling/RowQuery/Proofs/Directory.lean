import RowQuery.Row.Data

/-!
The columns of a directory that was built.

* `Directory.Numbered`: the offset of each column is its place among the columns.
* `Directory.numbered_of_build`: so it is in every directory that can be built.
* `Directory.isSome_resolve?_of_suggest?`: a name that is suggested stands for a column.
* `RowData.get?_offset`: the text at the offset of a column is that of the cell at its position.
-/
namespace RowQuery

namespace Directory

variable {directory next : Directory}

/-- The offset of each column is its place among the columns, counted from 1. -/
def Numbered (directory : Directory) : Prop :=
  ∀ (i : Nat) (column : Column), directory.columns[i]? = some column → column.offset = i + 1

theorem numbered_empty : empty.Numbered := by
  intro i column h
  simp [empty] at h

theorem Numbered.add (hn : directory.Numbered) {position : Nat} {name : String}
    {fullName : Option String} {index : Option Nat}
    (h : directory.add position name fullName index = .ok next) : next.Numbered := by
  simp only [Directory.add] at h
  split at h
  · cases h
  · cases h
    intro i column hi
    by_cases hlt : i < directory.columns.length
    · rw [List.getElem?_append_left hlt] at hi
      exact hn i column hi
    · rw [List.getElem?_append_right (Nat.le_of_not_lt hlt), List.getElem?_singleton] at hi
      split at hi
      · cases hi
        show directory.columns.length + 1 = i + 1
        omega
      · cases hi

theorem Numbered.buildFrom (hn : directory.Numbered) {position : Nat}
    {declarations : List Declaration}
    (h : directory.buildFrom position declarations = .ok next) : next.Numbered := by
  induction declarations generalizing position directory with
  | nil =>
    cases h
    exact hn
  | cons declaration r ih =>
    cases declaration with
    | skip => exact ih hn h
    | column name fullName index =>
      simp only [Directory.buildFrom, bind, Except.bind] at h
      cases hadd : directory.add position name fullName index with
      | error e => simp [hadd] at h
      | ok directory' =>
        rw [hadd] at h
        exact ih (hn.add hadd) h

/-- The columns of every directory that can be built are numbered. -/
theorem numbered_of_build {declarations : List Declaration}
    (h : build declarations = .ok directory) : directory.Numbered :=
  numbered_empty.buildFrom h

/-- A key stands for a column of the directory. -/
theorem mem_of_resolve? {key : String} {column : Column}
    (h : directory.resolve? key = some column) : column ∈ directory.columns := by
  unfold resolve? at h
  split at h
  · next hfind =>
    cases h
    exact List.mem_of_find?_eq_some hfind
  · split at h
    · next hfind =>
      cases h
      exact List.mem_of_find?_eq_some hfind
    · split at h
      · exact List.mem_of_find?_eq_some h
      · cases h

/-- Each name of a column stands for a column. -/
theorem isSome_resolve?_of_mem {column : Column} {name : String} (hc : column ∈ directory.columns)
    (hn : name ∈ column.names) : (directory.resolve? name).isSome = true := by
  unfold resolve?
  split
  · rfl
  · next hfind =>
    have hne : column.name ≠ name := by simpa using List.find?_eq_none.mp hfind column hc
    have hfull : column.fullName = some name := by
      rcases List.mem_cons.mp hn with rfl | hn
      · exact absurd rfl hne
      · exact Option.mem_toList.mp hn
    split
    · rfl
    · next hfind' =>
      have hnone := List.find?_eq_none.mp hfind' column hc
      exact absurd (by simp [hfull]) hnone

theorem mem_of_closest? {key name : String} {names : List String}
    (h : closest? key names = some name) : name ∈ names := by
  induction names generalizing name with
  | nil => cases h
  | cons other names ih =>
    rw [closest?] at h
    split at h
    · cases h
      exact List.mem_cons_self
    · next hclosest =>
      split at h
      · cases h
        exact List.mem_cons_self
      · cases h
        exact List.mem_cons_of_mem _ (ih hclosest)

/-- A name that is suggested stands for a column. -/
theorem isSome_resolve?_of_suggest? {key name : String} (h : directory.suggest? key = some name) :
    (directory.resolve? name).isSome = true := by
  unfold suggest? at h
  split at h
  · cases h
  · next hclosest =>
    split at h
    · cases h
      obtain ⟨column, hc, hn⟩ := List.mem_flatMap.mp (mem_of_closest? hclosest)
      exact isSome_resolve?_of_mem hc hn
    · cases h

end Directory

/-- The trimmed text of the cell that a column has in a row. A cell that is missing counts as empty. -/
def Rows.cellText (rows : Rows) (row : Nat) (column : Column) : List Char :=
  Text.trim ((rows.cell? row column.position).getD "").toList

/-- The text of a whole row: those of the columns with a space between them. -/
def Rows.rowText (directory : Directory) (rows : Rows) (row : Nat) : List Char :=
  [' '].intercalate (directory.columns.map (rows.cellText row))

namespace RowData

variable {directory : Directory}

/-- The text at the offset of a column is that of the cell at its position. -/
theorem get?_offset (hn : directory.Numbered) {column : Column}
    (hc : column ∈ directory.columns) (rows : Rows) (row : Nat) :
    (ofRows directory rows row).get? column.offset =
      some (String.ofList (rows.cellText row column)) := by
  obtain ⟨i, hi⟩ := List.mem_iff_getElem?.mp hc
  rw [hn i column hi]
  show (ofRows directory rows row).fields[i]? = _
  simp [ofRows, ofCells, Rows.cellText, Text.trimmed, hi]

theorem toList_wholeRow (directory : Directory) (rows : Rows) (row : Nat) :
    (ofRows directory rows row).wholeRow.toList = rows.rowText directory row := by
  rw [wholeRow, String.toList_intercalate, Rows.rowText]
  congr 1
  simp only [ofRows, ofCells, List.map_map]
  refine List.map_congr_left fun column _ => ?_
  simp [Text.trimmed, Rows.cellText]

end RowData
end RowQuery
