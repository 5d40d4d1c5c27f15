import RowQuery.Proofs.Command.Diagnostics
import RowQuery.Proofs.Row.Evaluator
import RowQuery.Proofs.Text.Lines

/-!
What is written about the lines of a table that a query keeps.

* `Selection`: a query and the table of a run, once nothing is wrong with either.
* `Selection.data`, `Selection.kept`: the lines of the table's rows, and those whose rows the query keeps.
* `Selection.keptRows_evaluation`: the rows that a report speaks of are those of the lines kept.
* `Selection.runFilter_eq`: what a command writes, whatever its flags.
* `Selection.output_run`: all ways to show the lines kept agree.
-/
namespace RowQuery

/-- The lines with the numbers that pass a test, found by going through the numbers. -/
theorem filter_zipIdx_eq {α : Type} (items : List α) (test : Nat → Bool) :
    items.zipIdx.filter (fun item => test item.2) =
      ((List.range items.length).filter test).filterMap fun i => (items[i]?).map fun item => (item, i) := by
  induction items using List.reverseRecOn with
  | nil => rfl
  | append_singleton items item ih =>
    have hbefore : ((List.range items.length).filter test).filterMap
          (fun i => ((items ++ [item])[i]?).map fun item => (item, i)) =
        ((List.range items.length).filter test).filterMap
          fun i => (items[i]?).map fun item => (item, i) := by
      refine List.filterMap_congr fun i hi => ?_
      have hlt : i < items.length := List.mem_range.mp (List.mem_of_mem_filter hi)
      rw [List.getElem?_append_left hlt]
    rw [List.length_append, List.length_singleton, List.range_succ, List.filter_append,
      List.filterMap_append, hbefore, ← ih, List.zipIdx_append, List.filter_append]
    cases h : test items.length <;> simp [h]

/-- The bytes of a text stand for it. -/
theorem File.Tree.decode_toUTF8 (text : String) : decode text.toUTF8 = .ok text := by
  have h : String.fromUTF8? text.toUTF8 = some text := by
    simp only [String.fromUTF8?, String.toUTF8_eq_toByteArray, dif_pos text.isValidUTF8]
    rfl
  rw [decode, h]

/-! ## Selections -/

/-- A query and the table of a run, once nothing is wrong with either: the configuration can be read, the
delimiter is one, the table is text and its columns make a directory, and the query has a filter. -/
structure Selection (world : World) (query : String) (source : Source) where
  config : Config
  delimiter : Char
  text : String
  directory : Directory
  filter : Filter
  loadConfig_eq : Invocation.loadConfig world = .ok config
  delimiterOf_eq : Invocation.delimiterOf source config = .ok delimiter
  textOf_eq : Invocation.textOf source world = .ok text
  directory_eq :
    (Table.parse text delimiter (!source.noHeader && config.hasHeader)).directory = .ok directory
  compile_eq : Query.compile .silent directory query = .ok filter

namespace Selection

variable {world : World} {query : String} {source : Source} (selection : Selection world query source)

/-- Whether the first line that counts is the header. -/
def hasHeader : Bool := !source.noHeader && selection.config.hasHeader

/-- The table. -/
def table : Table := Table.parse selection.text selection.delimiter selection.hasHeader

/-- The line of the header, if there is one. -/
def header : List (List Char) :=
  if selection.hasHeader then (Table.linesOf selection.text).take 1 else []

/-- The lines of the rows. -/
def data : List (List Char) :=
  if selection.hasHeader then (Table.linesOf selection.text).tail else Table.linesOf selection.text

/-- Whether the query keeps a row. -/
def accepts (row : Nat) : Bool :=
  selection.filter.accepts (RowData.ofRows selection.directory selection.table.rows row)

/-- The lines that are kept, each with the number of its row. -/
def kept : List (List Char × Nat) :=
  selection.data.zipIdx.filter fun line => selection.accepts line.2

/-- The evaluation of the query on all rows. -/
def evaluation : Evaluation :=
  (RowCache.empty.evaluate selection.filter selection.directory selection.table.rows).1

theorem rows_table : selection.table.rows = selection.data.map (Table.cells selection.delimiter) :=
  Table.rows_parse _ _ _

theorem evaluation_eq : selection.evaluation =
    .ofDecisions ((List.range selection.data.length).map selection.accepts) := by
  have hlength : selection.table.rows.length = selection.data.length := by
    rw [rows_table, List.length_map]
  rw [evaluation, RowCache.decisions_evaluate, hlength]
  rfl

theorem total_evaluation : selection.evaluation.total = selection.data.length := by
  simp [evaluation_eq, Evaluation.total, Evaluation.ofDecisions]

/-- The rows that a report speaks of are those of the lines kept, in their order. -/
theorem keptRows_evaluation : Report.keptRows selection.table selection.evaluation =
    selection.kept.map fun line => (line.2, Table.cells selection.delimiter line.1) := by
  rw [Report.keptRows, evaluation_eq, Evaluation.matchedRows_map_range, kept, filter_zipIdx_eq,
    List.map_filterMap, rows_table]
  refine List.filterMap_congr fun row _ => ?_
  rw [List.getElem?_map, Option.map_map, Option.map_map]
  rfl

theorem map_snd_kept :
    selection.kept.map Prod.snd = (List.range selection.data.length).filter selection.accepts := by
  have hnumbers : selection.data.zipIdx.map Prod.snd = List.range selection.data.length := by
    rw [List.zipIdx_map_snd, List.range_eq_range']
  rw [← hnumbers, List.filter_map]
  rfl

theorem matched_evaluation : selection.evaluation.matched = selection.kept.length := by
  have hcount : ((List.range selection.data.length).map selection.accepts).count true =
      ((List.range selection.data.length).filter selection.accepts).length := by
    rw [List.count, List.countP_map, List.countP_eq_length_filter]
    congr 2
    funext row
    simp
  rw [evaluation_eq, Evaluation.ofDecisions, hcount, ← map_snd_kept, List.length_map]

/-- The cells of the header are those of its line. -/
theorem header_table : (selection.header = [] ∧ selection.table.header = none) ∨
    ∃ line, selection.header = [line] ∧
      selection.table.header = some (Table.cells selection.delimiter line) := by
  rw [table, Table.header_parse, header]
  cases selection.hasHeader with
  | false => exact .inl ⟨rfl, rfl⟩
  | true =>
    cases Table.linesOf selection.text with
    | nil => exact .inl ⟨rfl, rfl⟩
    | cons line lines => exact .inr ⟨line, rfl, rfl⟩

/-- The table as text: the header and the lines kept, as they stand in the text. -/
theorem rowsText_evaluation : Report.rowsText selection.table selection.evaluation false =
    String.join ((selection.header ++ selection.kept.map Prod.fst).map
      fun line => String.ofList line ++ "\n") := by
  have hjoin (line : List Char) :
      selection.table.join (Table.cells selection.delimiter line) = String.ofList line := by
    rw [← Table.delimiter_parse selection.text selection.delimiter selection.hasHeader]
    exact selection.table.join_cells line
  have hkept : (Report.keptRows selection.table selection.evaluation).map
        (fun kept => selection.table.join kept.2 ++ "\n") =
      (selection.kept.map Prod.fst).map fun line => String.ofList line ++ "\n" := by
    rw [keptRows_evaluation, List.map_map, List.map_map]
    refine List.map_congr_left fun line _ => ?_
    simp only [Function.comp_apply, hjoin]
  rw [Report.rowsText, hkept, List.map_append, String.join_append]
  obtain ⟨hnone, htable⟩ | ⟨line, hline, htable⟩ := selection.header_table
  · rw [hnone, htable]
    rfl
  · rw [hline, htable]
    simp [Report.dimmed, hjoin, String.join_cons]

/-! ## What is written -/

theorem readTable_eq : Invocation.readTable source selection.config world = .ok selection.table := by
  rw [Invocation.readTable, selection.delimiterOf_eq, selection.textOf_eq]
  rfl

/-- What is said of the filter beside the output. -/
def predicate (invocation : Invocation) : String :=
  if invocation.verbose then "Predicate: " ++ selection.filter.description ++ "\n" else ""

/-- What a command writes about the rows kept, whatever its flags. -/
theorem runFilter_eq (invocation : Invocation) (showing : Showing) :
    let colors := invocation.colors world.environment selection.config
    let written : Written :=
      match showing with
      | .filter =>
        if invocation.json then .json (Report.explainJson query selection.filter)
        else .plain (Report.explainText selection.filter colors)
      | .count =>
        if invocation.json then .json (Report.countJson query selection.evaluation)
        else .plain (selection.evaluation.matched.repr ++ "\n")
      | .rows =>
        if invocation.json then .json (Report.rowsJson query selection.filter selection.table
          selection.directory selection.evaluation)
        else
          { output := Report.rowsText selection.table selection.evaluation colors
            notes := if !invocation.quiet && selection.config.showsCount then
              Report.summary selection.evaluation colors ++ "\n" else "" }
    invocation.runFilter world query source showing =
      .ok { written with notes := selection.predicate invocation ++ written.notes } := by
  have hcompile : Query.compile invocation.diagnostics selection.directory query = .ok selection.filter :=
    (Query.compile_eq _ _ _ _).trans selection.compile_eq
  have hdirectory : selection.table.directory = .ok selection.directory := selection.directory_eq
  rw [Invocation.runFilter, selection.loadConfig_eq]
  simp only [bind, Except.bind, readTable_eq, hdirectory, Except.mapError, hcompile]
  rfl

/-- All ways to show the lines that a query keeps agree, whatever the other flags. The output as text is the
header and the lines kept, each as it stands in the text of the table; their number is the one that is
written alone, in JSON and beside the output; and the rows in JSON are those of these lines, with their numbers
among the rows and their cells. -/
theorem output_run (invocation : Invocation) :
    let run (showing : Showing) (json : Bool) : Outcome :=
      ({ invocation with command := .filter query source showing, json }).run world
    let colors := invocation.colors world.environment selection.config
    Text.Cut selection.text.toList (Text.lines selection.text.toList) ∧
    selection.table.rows = selection.data.map (Table.cells selection.delimiter) ∧
    (∀ line, String.intercalate (String.singleton selection.delimiter)
      (Table.cells selection.delimiter line) = String.ofList line) ∧
    (∀ showing json, (run showing json).failure = none) ∧
    (colors = false → (run .rows false).output =
      String.join ((selection.header ++ selection.kept.map Prod.fst).map
        fun line => String.ofList line ++ "\n")) ∧
    (run .rows false).notes = selection.predicate invocation ++
      (if !invocation.quiet && selection.config.showsCount then
        Report.dimmed colors (selection.kept.length.repr ++ " of " ++ selection.data.length.repr ++
          (if selection.data.length = 1 then " row" else " rows") ++ " matched") ++ "\n"
      else "") ∧
    (run .count false).output = selection.kept.length.repr ++ "\n" ∧
    (run .count true).output =
      (Json.obj [("query", .str query), ("matched", .num selection.kept.length),
        ("total", .num selection.data.length)]).pretty ++ "\n" ∧
    (run .rows true).output =
      (Json.obj [("query", .str query), ("predicate", .str selection.filter.description),
        ("matched", .num selection.kept.length), ("total", .num selection.data.length),
        ("columns", .arr (selection.directory.names.map .str)),
        ("rows", .arr (selection.kept.map fun kept => .obj [("row", .num kept.2),
          ("cells", .arr ((Table.cells selection.delimiter kept.1).map .str))]))]).pretty ++ "\n" := by
  intro run colors
  have hrun (showing : Showing) (json : Bool) : run showing json = Invocation.outcomeOf world
      (({ invocation with command := .filter query source showing, json } : Invocation).runFilter
        world query source showing) := rfl
  simp only [hrun, selection.runFilter_eq]
  refine ⟨Text.cut_lines _, selection.rows_table, Table.intercalate_cells _, fun _ _ => rfl,
    fun hcolors => ?_, ?_, ?_, ?_, ?_⟩
  · rw [← rowsText_evaluation]
    exact congrArg (Report.rowsText selection.table selection.evaluation) hcolors
  · rw [← matched_evaluation, ← total_evaluation]
    rfl
  · rw [← matched_evaluation]
    rfl
  · rw [← matched_evaluation, ← total_evaluation]
    rfl
  · have hrows : (Report.keptRows selection.table selection.evaluation).map
          (fun kept => Json.obj [("row", .num kept.1), ("cells", Report.stringsJson kept.2)]) =
        selection.kept.map fun kept => .obj [("row", .num kept.2),
          ("cells", .arr ((Table.cells selection.delimiter kept.1).map .str))] := by
      rw [keptRows_evaluation, List.map_map]
      rfl
    rw [← hrows, ← matched_evaluation, ← total_evaluation]
    rfl

/-- Of a table with a blank line and both kinds of line ends, one of two rows is kept. -/
theorem output_run_of_two_rows :
    let text := "name\tage\n alice\t30\n\nbob\t4\r\n"
    let world : World :=
      { environment := ⟨some "none", none, none, some "", ""⟩, tree := ⟨[], []⟩, input := text.toUTF8 }
    let source : Source := { file := none, delimiter := none, noHeader := false }
    let invocation : Invocation :=
      { command := .guide, verbose := false, quiet := false, json := false, noColor := false,
        traceParser := true }
    let run (showing : Showing) (json : Bool) : Outcome :=
      { invocation with command := .filter ":name b" source showing, json }.run world
    ∃ selection : Selection world ":name b" source,
      invocation.colors world.environment selection.config = false ∧
      selection.header = ["name\tage".toList] ∧ selection.kept = [("bob\t4".toList, 1)] ∧
      (run .rows false).output = "name\tage\nbob\t4\n" ∧
      (run .rows false).notes = "1 of 2 rows matched\n" ∧ (run .count false).output = "1\n" := by
  intro text world source invocation run
  let directory : Directory := ⟨[⟨"name", none, some 1, 0, 1⟩, ⟨"age", none, some 2, 1, 2⟩]⟩
  have haccepts : (Query.compile .silent directory ":name b").map (fun filter =>
      (List.range 2).map fun row => filter.accepts (.ofRows directory
        [[" alice", "30"], ["bob", "4"]] row)) = .ok [false, true] := by
    decide +kernel
  cases hcompile : Query.compile .silent directory ":name b" with
  | error error =>
    rw [hcompile] at haccepts
    cases haccepts
  | ok filter =>
    let selection : Selection world ":name b" source :=
      { config := .empty
        delimiter := '\t'
        text := text
        directory := directory
        filter := filter
        loadConfig_eq := by decide +kernel
        delimiterOf_eq := rfl
        textOf_eq := File.Tree.decode_toUTF8 text
        directory_eq := by decide +kernel
        compile_eq := hcompile }
    have hlines : Table.linesOf text =
        ["name\tage".toList, " alice\t30".toList, "bob\t4".toList] := by decide +kernel
    have hheader : selection.header = ["name\tage".toList] := congrArg (List.take 1) hlines
    have hdata : selection.data = [" alice\t30".toList, "bob\t4".toList] := congrArg List.tail hlines
    have hcells : [" alice\t30".toList, "bob\t4".toList].map (Table.cells '\t') =
        [[" alice", "30"], ["bob", "4"]] := by decide +kernel
    have hrows : selection.table.rows = [[" alice", "30"], ["bob", "4"]] := by
      rw [rows_table, hdata]
      exact hcells
    have hkept : selection.kept = [("bob\t4".toList, 1)] := by
      rw [hcompile] at haccepts
      simp only [Except.map, Except.ok.injEq, List.range, List.range.loop, List.map_cons, List.map_nil,
        List.cons.injEq, and_true] at haccepts
      have hfirst : selection.accepts 0 = false := by
        rw [Selection.accepts, hrows]
        exact haccepts.1
      have hsecond : selection.accepts 1 = true := by
        rw [Selection.accepts, hrows]
        exact haccepts.2
      rw [Selection.kept, hdata]
      simp [hfirst, hsecond]
    have hrun := selection.output_run invocation
    have hcolors : invocation.colors world.environment selection.config = false := rfl
    refine ⟨selection, hcolors, hheader, hkept, ?_, ?_, ?_⟩
    · rw [hrun.2.2.2.2.1 hcolors, hheader, hkept]
      decide +kernel
    · rw [hrun.2.2.2.2.2.1, hkept, hdata, hcolors]
      rfl
    · rw [hrun.2.2.2.2.2.2.1, hkept]
      decide +kernel

end Selection
end RowQuery
