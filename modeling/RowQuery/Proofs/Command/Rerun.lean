import RowQuery.Command.Arguments
import RowQuery.Proofs.Command.Selection
import RowQuery.Proofs.Results
import RowQuery.Proofs.Table.Delimiter

/-!
Filtering what was filtered.

* `Selection.nonempty_of_failure`: nothing is wrong with the query and the table of a run that does not fail.
* `Selection.rerun`: nothing is wrong with that query and the table that such a run has written.
* `Selection.map_fst_kept_rerun`: the query keeps all rows of it.
* `Invocation.output_rerun`: the output is the same once more, but for carriage returns before line feeds.
-/
namespace RowQuery

/-! ## Rows that differ in white space -/

namespace RowData

/-- The data of a row is made of its trimmed cells. -/
theorem ofRows_eq_of_trimmed (directory : Directory) {rows rows' : Rows} {row row' : Nat}
    (h : (rows[row]?).map (List.map Text.trimmed) = (rows'[row']?).map (List.map Text.trimmed)) :
    ofRows directory rows row = ofRows directory rows' row' := by
  have hcell (rows : Rows) (row position : Nat) : Text.trimmed ((rows.cell? row position).getD "") =
      ((((rows[row]?).map (List.map Text.trimmed)).bind fun cells => cells[position]?).getD "") := by
    rw [Rows.cell?]
    cases rows[row]? with
    | none => rfl
    | some cells =>
      simp only [Option.bind_eq_bind, Option.bind_some, Option.map_some, List.getElem?_map]
      cases cells[position]? <;> rfl
  simp only [ofRows, ofCells, List.map_map, RowData.mk.injEq]
  refine List.map_congr_left fun column _ => ?_
  rw [Function.comp_apply, Function.comp_apply, hcell, hcell, h]

end RowData

namespace Table

/-- The columns of a table with a header are named by its trimmed cells. -/
theorem columnNames_parse (text : String) (delimiter : Char) :
    (parse text delimiter true).columnNames =
      ((((linesOf text).head?.map (cells delimiter)).getD []).map Text.trimmed).zipIdx.map fun name =>
        if name.1.isEmpty then (name.2 + 1).repr else name.1 := by
  have hheader := header_parse text delimiter true
  have hrows := rows_parse text delimiter true
  rw [if_pos rfl] at hheader hrows
  rw [columnNames, width, hheader, hrows]
  cases linesOf text with
  | nil => rfl
  | cons line lines =>
    simp only [List.head?_cons, Option.map_some, Option.getD_some, List.zipIdx_map, List.map_map]
    rfl

end Table

theorem Invocation.ne_return_of_delimiterOf {source : Source} {config : Config} {delimiter : Char}
    (h : delimiterOf source config = .ok delimiter) : '\r' ≠ delimiter := by
  have hread {text : String} (h : Config.readDelimiter text = .ok delimiter) : '\r' ≠ delimiter := by
    unfold Config.readDelimiter at h
    split at h
    · next hparse =>
      cases h
      exact (Delimiter.ne_of_parse? hparse).2.symm
    · cases h
  unfold delimiterOf Config.tableDelimiter at h
  split at h
  · exact hread h
  · split at h
    · exact hread h
    · cases h
      decide

/-! ## Runs that do not fail -/

namespace Selection

variable {world world' : World} {query : String} {source : Source}

/-- Nothing is wrong with the query and the table of a run that does not fail. -/
theorem nonempty_of_failure {invocation : Invocation} {showing : Showing}
    (hcommand : invocation.command = .filter query source showing)
    (h : (invocation.run world).failure = none) : Nonempty (Selection world query source) := by
  obtain ⟨written, hwritten⟩ : ∃ written, invocation.runFilter world query source showing = .ok written := by
    rw [Invocation.run, hcommand] at h
    cases hresult : invocation.runFilter world query source showing with
    | error failure => simp [hresult, Invocation.outcomeOf] at h
    | ok written => exact ⟨written, rfl⟩
  rw [Invocation.runFilter, bind_eq_ok_iff] at hwritten
  obtain ⟨config, hconfig, hwritten⟩ := hwritten
  obtain ⟨table, htable, hwritten⟩ := bind_eq_ok_iff.mp hwritten
  obtain ⟨directory, hdirectory, hwritten⟩ := bind_eq_ok_iff.mp hwritten
  obtain ⟨filter, hfilter, -⟩ := bind_eq_ok_iff.mp hwritten
  rw [Invocation.readTable, bind_eq_ok_iff] at htable
  obtain ⟨delimiter, hdelimiter, htable⟩ := htable
  obtain ⟨text, htext, htable⟩ := bind_eq_ok_iff.mp htable
  cases htable
  exact ⟨{
    config, delimiter, text, directory, filter
    loadConfig_eq := hconfig
    delimiterOf_eq := mapError_eq_ok_iff.mp hdelimiter
    textOf_eq := mapError_eq_ok_iff.mp htext
    directory_eq := mapError_eq_ok_iff.mp hdirectory
    compile_eq := (Query.compile_eq _ _ _ _).trans (mapError_eq_ok_iff.mp hfilter) }⟩

variable (selection : Selection world query source)

/-- The lines that are written: the header and the lines kept. -/
def shown : List (List Char) := selection.header ++ selection.kept.map Prod.fst

/-- The text that is written. -/
def shownText : String := String.ofList (Text.unlines selection.shown)

/-- Rows are written as text if neither JSON nor colours are wanted. -/
theorem run_rows {invocation : Invocation} (hcommand : invocation.command = .filter query source .rows)
    (hjson : invocation.json = false)
    (hcolors : invocation.colors world.environment selection.config = false) :
    (invocation.run world).failure = none ∧ (invocation.run world).output = selection.shownText := by
  have hrun : invocation.run world =
      Invocation.outcomeOf world (invocation.runFilter world query source .rows) := by
    rw [Invocation.run, hcommand]
  rw [hrun, selection.runFilter_eq, hjson, hcolors]
  refine ⟨rfl, ?_⟩
  rw [shownText, shown, Text.ofList_unlines, ← rowsText_evaluation]
  rfl

/-! ## What was written, read again -/

/-- The lines written are lines of the table. -/
theorem mem_linesOf_of_mem_shown {line : List Char} (h : line ∈ selection.shown) :
    line ∈ Table.linesOf selection.text := by
  rw [shown, List.mem_append] at h
  rcases h with hheader | hkept
  · rw [header] at hheader
    split at hheader
    · exact List.mem_of_mem_take hheader
    · cases hheader
  · obtain ⟨numbered, hnumbered, rfl⟩ := List.mem_map.mp hkept
    have hdata : numbered.1 ∈ selection.data :=
      List.fst_mem_of_mem_zipIdx (List.mem_of_mem_filter hnumbered)
    rw [data] at hdata
    split at hdata
    · exact List.mem_of_mem_tail hdata
    · exact hdata

theorem feed_not_mem_of_mem_shown {line : List Char} (h : line ∈ selection.shown) : '\n' ∉ line :=
  (Text.cut_lines _).not_mem (List.mem_of_mem_filter (selection.mem_linesOf_of_mem_shown h))

/-- All lines written count when they are read again. -/
theorem linesOf_shownText :
    Table.linesOf selection.shownText = selection.shown.map Text.dropReturn := by
  rw [Table.linesOf, shownText, String.toList_ofList,
    Text.lines_unlines fun _ => selection.feed_not_mem_of_mem_shown, List.filter_eq_self]
  intro line hline
  obtain ⟨original, horiginal, rfl⟩ := List.mem_map.mp hline
  rw [Text.trim_dropReturn]
  exact (List.mem_filter.mp (selection.mem_linesOf_of_mem_shown horiginal)).2

variable (hheader : selection.hasHeader = true)

include hheader in
theorem head?_linesOf_shownText : (Table.linesOf selection.shownText).head? =
    (Table.linesOf selection.text).head?.map Text.dropReturn := by
  rw [linesOf_shownText, shown, header, kept, data, if_pos hheader, if_pos hheader]
  cases Table.linesOf selection.text <;> rfl

include hheader in
theorem tail_linesOf_shownText : (Table.linesOf selection.shownText).tail =
    (selection.kept.map Prod.fst).map Text.dropReturn := by
  rw [linesOf_shownText, shown, header, kept, data, if_pos hheader, if_pos hheader]
  cases Table.linesOf selection.text <;> rfl

include hheader in
/-- The columns of the table are those of the text that is written. -/
theorem columnNames_shownText :
    (Table.parse selection.shownText selection.delimiter true).columnNames =
      (Table.parse selection.text selection.delimiter true).columnNames := by
  rw [Table.columnNames_parse, Table.columnNames_parse, selection.head?_linesOf_shownText hheader]
  cases (Table.linesOf selection.text).head? with
  | none => rfl
  | some line =>
    have hcells := Table.map_trimmed_cells_dropReturn
      (Invocation.ne_return_of_delimiterOf selection.delimiterOf_eq) line
    rw [Option.map_some, Option.map_some, Option.map_some, Option.getD_some, Option.getD_some, hcells]

variable (hconfig : Invocation.loadConfig world' = .ok selection.config)
variable (htext : Invocation.textOf source world' = .ok selection.shownText)

/-- The query and the table of a run on what was written. -/
def rerun : Selection world' query source where
  config := selection.config
  delimiter := selection.delimiter
  text := selection.shownText
  directory := selection.directory
  filter := selection.filter
  loadConfig_eq := hconfig
  delimiterOf_eq := selection.delimiterOf_eq
  textOf_eq := htext
  directory_eq := by
    have hdirectory := selection.directory_eq
    have hhas : (!source.noHeader && selection.config.hasHeader) = true := hheader
    rw [hhas, Table.directory] at hdirectory ⊢
    rwa [selection.columnNames_shownText hheader]
  compile_eq := selection.compile_eq

theorem data_rerun : (selection.rerun hheader hconfig htext).data =
    (selection.kept.map Prod.fst).map Text.dropReturn :=
  (if_pos hheader).trans (selection.tail_linesOf_shownText hheader)

theorem header_rerun : (selection.rerun hheader hconfig htext).header =
    selection.header.map Text.dropReturn := by
  have hfirst : (selection.rerun hheader hconfig htext).header =
      (Table.linesOf selection.shownText).take 1 := if_pos hheader
  rw [hfirst, header, if_pos hheader, List.take_one, List.take_one,
    selection.head?_linesOf_shownText hheader]
  cases (Table.linesOf selection.text).head? <;> rfl

/-- The query keeps each row that it kept. -/
theorem accepts_rerun {row : Nat} (h : row < selection.kept.length) :
    (selection.rerun hheader hconfig htext).accepts row = true := by
  obtain ⟨⟨line, number⟩, hline⟩ : ∃ line, selection.kept[row]? = some line :=
    ⟨_, List.getElem?_eq_getElem h⟩
  obtain ⟨hdata, haccepts⟩ := List.mem_filter.mp (List.mem_of_getElem? hline)
  have hnew : (selection.rerun hheader hconfig htext).table.rows[row]? =
      some (Table.cells selection.delimiter (Text.dropReturn line)) := by
    rw [rows_table, data_rerun, List.getElem?_map, List.getElem?_map, List.getElem?_map, hline]
    rfl
  have hold : selection.table.rows[number]? = some (Table.cells selection.delimiter line) := by
    rw [rows_table, List.getElem?_map, List.mk_mem_zipIdx_iff_getElem?.mp hdata]
    rfl
  have hsame : RowData.ofRows selection.directory (selection.rerun hheader hconfig htext).table.rows row =
      RowData.ofRows selection.directory selection.table.rows number := by
    refine RowData.ofRows_eq_of_trimmed _ ?_
    rw [hnew, hold, Option.map_some, Option.map_some, Table.map_trimmed_cells_dropReturn
      (Invocation.ne_return_of_delimiterOf selection.delimiterOf_eq)]
  rw [accepts, ← hsame] at haccepts
  exact haccepts

theorem map_fst_kept_rerun : (selection.rerun hheader hconfig htext).kept.map Prod.fst =
    (selection.kept.map Prod.fst).map Text.dropReturn := by
  have hall : (selection.rerun hheader hconfig htext).kept =
      (selection.rerun hheader hconfig htext).data.zipIdx := by
    refine List.filter_eq_self.mpr fun line hline => ?_
    have hlt := List.snd_lt_of_mem_zipIdx hline
    rw [data_rerun, List.length_map, List.length_map] at hlt
    exact selection.accepts_rerun hheader hconfig htext hlt
  rw [hall, List.zipIdx_map_fst, data_rerun]

/-- The lines written once more are the same, but for carriage returns at their ends. -/
theorem shown_rerun : (selection.rerun hheader hconfig htext).shown =
    selection.shown.map Text.dropReturn := by
  rw [shown, header_rerun, map_fst_kept_rerun, shown, List.map_append]

theorem toList_shownText_rerun : (selection.rerun hheader hconfig htext).shownText.toList =
    Text.dropReturns selection.shownText.toList := by
  rw [shownText, shown_rerun, shownText, String.toList_ofList, String.toList_ofList,
    Text.dropReturns_unlines fun _ => selection.feed_not_mem_of_mem_shown]

end Selection

/-! ## One run after the other -/

namespace Invocation

variable {invocation : Invocation} {world world' : World} {query : String} {source : Source}

/-- The rows that a query keeps are written as text, below the header of the table and without colours. -/
structure WritesText (invocation : Invocation) (query : String) (source : Source) (world : World) : Prop where
  command : invocation.command = .filter query source .rows
  json : invocation.json = false
  header : source.noHeader = false ∧ ∀ config, loadConfig world = .ok config → config.hasHeader = true
  colors : ∀ config, loadConfig world = .ok config →
    invocation.colors world.environment config = false

/-- What a run finds differs from another in that the table has a given text. -/
structure Finds (source : Source) (text : String) (world world' : World) : Prop where
  environment : world'.environment = world.environment
  loadConfig_eq : loadConfig world' = loadConfig world
  textOf_eq : textOf source world' = .ok text

/-- A run on what the same run has written does not fail, and it writes all of that once more, but for the
carriage returns that stand just before a line feed: reading takes them for a part of the line end, and a line
may have had one more. -/
theorem output_rerun (hwrites : invocation.WritesText query source world)
    (hfailure : (invocation.run world).failure = none)
    (hfinds : Finds source (invocation.run world).output world world') :
    (invocation.run world').failure = none ∧
      (invocation.run world').output.toList = Text.dropReturns (invocation.run world).output.toList ∧
      ((invocation.run world').output = (invocation.run world).output ↔
        ¬ ['\r', '\n'] <:+: (invocation.run world).output.toList) := by
  obtain ⟨selection⟩ := Selection.nonempty_of_failure hwrites.command hfailure
  have hconfig : loadConfig world' = .ok selection.config :=
    hfinds.loadConfig_eq.trans selection.loadConfig_eq
  have hheader : selection.hasHeader = true := by
    rw [Selection.hasHeader, hwrites.header.1, hwrites.header.2 _ selection.loadConfig_eq]
    rfl
  have hcolors : invocation.colors world.environment selection.config = false :=
    hwrites.colors _ selection.loadConfig_eq
  have hcolors' : invocation.colors world'.environment selection.config = false := by
    rwa [hfinds.environment]
  obtain ⟨-, houtput⟩ := selection.run_rows hwrites.command hwrites.json hcolors
  have htext : textOf source world' = .ok selection.shownText := houtput ▸ hfinds.textOf_eq
  obtain ⟨hfailure', houtput'⟩ :=
    (selection.rerun hheader hconfig htext).run_rows hwrites.command hwrites.json hcolors'
  have hlist : (invocation.run world').output.toList =
      Text.dropReturns (invocation.run world).output.toList := by
    rw [houtput', houtput, Selection.toList_shownText_rerun]
  refine ⟨hfailure', hlist, ?_⟩
  rw [← String.toList_inj, hlist, Text.dropReturns_eq_self_iff]

/-- A table with a blank line and rows of several lengths is filtered and filtered once more. -/
theorem output_rerun_of_ragged_rows :
    let world : World :=
      { environment := ⟨some "none", none, none, some "", ""⟩, tree := ⟨[], []⟩
        input := "name\tage\n alice\t30\n\nbob\t4\r\nalbert\n".toUTF8 }
    let invocation : Invocation :=
      { command := .filter ":name al" ⟨none, none, false⟩ .rows, verbose := false, quiet := false,
        json := false, noColor := false, traceParser := false }
    let output := (invocation.run world).output
    output = "name\tage\n alice\t30\nalbert\n" ∧
      (invocation.run { world with input := output.toUTF8 }).failure = none ∧
      (invocation.run { world with input := output.toUTF8 }).output = output := by
  intro world invocation output
  have houtput : output = "name\tage\n alice\t30\nalbert\n" := by decide +kernel
  have hconfig : loadConfig world = .ok .empty := by decide +kernel
  have hwrites : invocation.WritesText ":name al" ⟨none, none, false⟩ world :=
    { command := rfl
      json := rfl
      header := ⟨rfl, fun config h => by
        obtain rfl : .empty = config := Except.ok.inj (hconfig.symm.trans h)
        rfl⟩
      colors := fun _ _ => rfl }
  have hfinds : Finds ⟨none, none, false⟩ output world { world with input := output.toUTF8 } :=
    ⟨rfl, rfl, File.Tree.decode_toUTF8 output⟩
  obtain ⟨hfailure, -, hsame⟩ := output_rerun hwrites (by decide +kernel) hfinds
  have hreturn : ¬ ['\r', '\n'] <:+: output.toList := by
    rw [houtput]
    decide +kernel
  exact ⟨houtput, hfailure, hsame.mpr hreturn⟩

/-- A line that ends with a carriage return, as the last one of a text may, is written with it, and loses it
when what was written is filtered once more. -/
theorem output_of_last_return :
    let world (text : String) : World :=
      { environment := ⟨some "none", none, none, none, ""⟩, tree := ⟨[], []⟩, input := text.toUTF8 }
    ∃ invocation, ofArguments ["--no-color", "filter", "x"] = .ok invocation ∧
      (invocation.run (world "h\nx\r")).failure = none ∧
      (invocation.run (world "h\nx\r")).output = "h\nx\r\n" ∧
      (invocation.run (world "h\nx\r\n")).failure = none ∧
      (invocation.run (world "h\nx\r\n")).output = "h\nx\n" := by
  intro world
  refine ⟨⟨.filter "x" ⟨none, none, false⟩ .rows, false, false, false, true, false⟩, rfl, ?_, ?_, ?_, ?_⟩
  · decide +kernel
  · decide +kernel
  · decide +kernel
  · decide +kernel

end Invocation
end RowQuery
