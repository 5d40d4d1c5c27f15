import RowQuery.Command.Arguments
import RowQuery.Command.Run

/-!
What a run that fails has written.

* `Invocation.ShowsHalf`: the configuration is to be shown as text, and gives something as the delimiter that
  is none.
* `Invocation.run_of_showsHalf`: such a run fails at the delimiter, when the first part is written.
* `Invocation.output_of_not_showsHalf`: any other run that fails has written nothing.
* `Invocation.output_of_failure`: both in one.
-/
namespace RowQuery

/-- The delimiter of tables is at fault if the configuration gives a text that is none. -/
theorem Config.tableDelimiter_eq_error_iff {config : Config} {fault : Fault} :
    config.tableDelimiter = .error fault ↔
      ∃ text, config.delimiter = some text ∧ Delimiter.parse? text = none ∧ fault = .delimiter text := by
  unfold tableDelimiter readDelimiter
  cases config.delimiter with
  | none => simp
  | some text => cases hparse : Delimiter.parse? text <;> simp [hparse, eq_comm]

namespace Invocation

variable {invocation : Invocation} {world : World} {failure : Failure} {text : String}

/-- The configuration is to be shown as text. It can be read, but gives a text as the delimiter that is
none. -/
structure ShowsHalf (invocation : Invocation) (world : World) (text : String) : Prop where
  command : invocation.command = .showConfig
  json : invocation.json = false
  quiet : invocation.quiet = false
  delimiter : ∃ config, loadConfig world = .ok config ∧ config.delimiter = some text
  parse? : Delimiter.parse? text = none

/-- What is written of the configuration before the delimiter is looked at. -/
def opening (invocation : Invocation) (world : World) : String :=
  configOpening world.environment.configPath (world.tree.contains world.environment.configPath)
    (invocation.wantsColors world.environment)

theorem opening_ne_empty (invocation : Invocation) (world : World) : invocation.opening world ≠ "" := by
  intro h
  have hlist : (invocation.opening world).toList = [] := by rw [h, String.toList_empty]
  simp [opening, configOpening, String.toList_append] at hlist

/-- Where the delimiter is at fault, the first part has been written. -/
theorem run_of_showsHalf (h : invocation.ShowsHalf world text) :
    (invocation.run world).output = invocation.opening world ∧
      (invocation.run world).failure = some (.config (.delimiter text)) := by
  obtain ⟨config, hconfig, hdelimiter⟩ := h.delimiter
  have hfault : config.tableDelimiter = .error (.delimiter text) :=
    Config.tableDelimiter_eq_error_iff.mpr ⟨text, hdelimiter, h.parse?, rfl⟩
  have hshow : invocation.runShowConfig world =
      (invocation.opening world, some (.config (.delimiter text))) := by
    simp only [runShowConfig, hconfig, h.json, h.quiet, hfault, Bool.false_eq_true, if_false]
    rfl
  simp only [run, h.command, hshow, and_self]

/-- A command that changes no files writes nothing if it fails. -/
theorem output_outcomeOf {result : Except Failure Written}
    (h : (outcomeOf world result).failure = some failure) : (outcomeOf world result).output = "" := by
  cases result with
  | error failure => rfl
  | ok written => cases h

/-- Showing the configuration fails with nothing written, unless it is the delimiter that is at fault. -/
theorem output_runShowConfig (hcommand : invocation.command = .showConfig)
    (h : (invocation.runShowConfig world).2 = some failure) :
    (invocation.runShowConfig world).1 = "" ∨ ∃ text, invocation.ShowsHalf world text := by
  unfold runShowConfig at h ⊢
  cases hconfig : loadConfig world with
  | error failure => exact .inl rfl
  | ok config =>
    simp only [hconfig] at h ⊢
    cases hjson : invocation.json with
    | true => simp [hjson] at h
    | false =>
      cases hquiet : invocation.quiet with
      | true => simp [hjson, hquiet] at h
      | false =>
        cases hdelimiter : config.tableDelimiter with
        | ok delimiter => simp [hjson, hquiet, hdelimiter] at h
        | error fault =>
          obtain ⟨text, htext, hparse, -⟩ := Config.tableDelimiter_eq_error_iff.mp hdelimiter
          exact .inr ⟨text, hcommand, hjson, hquiet, ⟨config, hconfig, htext⟩, hparse⟩

/-- All other runs that fail have written nothing: a command writes once nothing can go wrong any more. -/
theorem output_of_not_showsHalf (h : (invocation.run world).failure = some failure)
    (hnot : ∀ text, ¬ invocation.ShowsHalf world text) : (invocation.run world).output = "" := by
  unfold run at h ⊢
  cases hcommand : invocation.command with
  | filter query source showing =>
    simp only [hcommand] at h ⊢
    exact output_outcomeOf h
  | columns source =>
    simp only [hcommand] at h ⊢
    exact output_outcomeOf h
  | guide => simp [hcommand, outcomeOf] at h
  | showConfig =>
    simp only [hcommand] at h ⊢
    rcases output_runShowConfig hcommand h with hempty | ⟨text, hhalf⟩
    · exact hempty
    · exact absurd hhalf (hnot text)
  | configPath => simp [hcommand, outcomeOf] at h
  | initConfig force =>
    simp only [hcommand] at h ⊢
    cases hinstall : Config.install world.tree world.environment.configPath force with
    | mk tree result =>
      cases result with
      | error fault => rfl
      | ok _ => simp [hinstall] at h
  | completions shell => simp [hcommand, outcomeOf] at h

/-- A run that fails has written nothing, whatever the command, the files and the input, but for one case: the
configuration is shown as text, and what it gives as the delimiter is none. Such a run has written the first
part, up to the delimiter, and fails for the delimiter. -/
theorem output_of_failure (h : (invocation.run world).failure = some failure) :
    ((invocation.run world).output = "" ↔ ∀ text, ¬ invocation.ShowsHalf world text) ∧
      ∀ text, invocation.ShowsHalf world text → failure = .config (.delimiter text) ∧
        (invocation.run world).output = invocation.opening world := by
  refine ⟨⟨fun hempty text hhalf => ?_, output_of_not_showsHalf h⟩, fun text hhalf => ?_⟩
  · exact opening_ne_empty invocation world ((run_of_showsHalf hhalf).1.symm.trans hempty)
  · obtain ⟨houtput, hfailure⟩ := run_of_showsHalf hhalf
    exact ⟨Option.some.inj (h.symm.trans hfailure), houtput⟩

/-- A run that filters by a column that is not there fails with nothing written. -/
theorem output_of_unknown_column :
    let world : World :=
      { environment := ⟨some "none", none, none, none, ""⟩, tree := ⟨[], []⟩, input := "name\nx\n".toUTF8 }
    let invocation : Invocation :=
      { command := .filter ":nmae x" ⟨none, none, false⟩ .rows, verbose := false, quiet := false,
        json := false, noColor := false, traceParser := false }
    (invocation.run world).failure = some (.filter (.unknownColumn "nmae" (some "name"))) ∧
      (invocation.run world).output = "" := by
  intro world invocation
  have hfailure : (invocation.run world).failure =
      some (.filter (.unknownColumn "nmae" (some "name"))) := by decide +kernel
  refine ⟨hfailure, (output_of_failure hfailure).1.mpr fun text hhalf => ?_⟩
  have hcommand : invocation.command = .showConfig := hhalf.command
  cases hcommand

/-- `config show`, where the configuration gives `xx` as the delimiter, fails with half of an answer written. -/
theorem output_of_wrong_delimiter :
    let world : World :=
      { environment := ⟨some "c.toml", none, none, some "", ""⟩
        tree := .ofFiles [] [(["c.toml"], "delimiter = \"xx\"\n".toUTF8)], input := .empty }
    ∃ invocation, ofArguments ["config", "show"] = .ok invocation ∧ (invocation.run world).exitCode = 5 ∧
      (invocation.run world).output = "Configuration\n\nFile: c.toml\nExists: true\n\nSettings:\n" := by
  intro world
  refine ⟨⟨.showConfig, false, false, false, false, false⟩, rfl, ?_, ?_⟩
  · decide +kernel
  · decide +kernel

end Invocation
end RowQuery
