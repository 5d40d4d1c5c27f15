import RowQuery.Command.Completion
import RowQuery.Config.Location
import RowQuery.Config.Store
import RowQuery.Query.Compile
import RowQuery.Report

/-!
Runs of the program.

* `World`: what a run finds: the environment, the files and standard input.
* `Failure`: why a run fails.
* `Outcome`: what a run writes and leaves behind.
* `Invocation.run`: the run of a command.
* `Outcome.closing`: the last words of a run that fails.
-/
namespace RowQuery

/-- What a run finds. -/
structure World where
  environment : Environment
  tree : File.Tree
  input : ByteArray

/-- Why a run fails. -/
inductive Failure where
  | filter (error : QueryError)
  | table (error : DirectoryError)
  | config (fault : Config.Fault)
  | file (fault : File.Fault)
deriving DecidableEq, Repr

namespace Failure

/-- What is said of a failure. -/
def message : Failure → String
  | filter error => "filter error: " ++ error.message
  | table error => "table error: " ++ error.message
  | config fault => "configuration error: " ++ fault.message
  | file fault => "I/O error: " ++ fault.message

/-- The name of the kind of failure. -/
def code : Failure → String
  | filter _ => "FILTER_ERROR"
  | table _ => "TABLE_ERROR"
  | config _ => "CONFIG_ERROR"
  | file _ => "IO_ERROR"

/-- The exit code of a run that fails. -/
def exitCode : Failure → Nat
  | filter _ => 1
  | file _ => 3
  | table _ => 4
  | config _ => 5

/-- A failure as JSON. -/
def json (failure : Failure) : Json :=
  .obj [("error", .obj [("code", .str failure.code), ("message", .str failure.message)])]

end Failure

/-- What a run writes and leaves behind. -/
structure Outcome where
  output : String
  notes : String
  tree : File.Tree
  failure : Option Failure

namespace Outcome

/-- The exit code. -/
def exitCode (outcome : Outcome) : Nat :=
  match outcome.failure with
  | some failure => failure.exitCode
  | none => 0

/-- The last words of a run that fails. -/
def closing (outcome : Outcome) (json : Bool) : String :=
  match outcome.failure with
  | none => ""
  | some failure => (if json then failure.json.pretty else "Error: " ++ failure.message) ++ "\n"

end Outcome

/-- What a command writes: output, and notes beside it. -/
structure Written where
  output : String
  notes : String
deriving DecidableEq, Repr

/-- What is written without notes. -/
def Written.plain (output : String) : Written := { output, notes := "" }

/-- JSON as output. -/
def Written.json (value : Json) : Written := .plain (value.pretty ++ "\n")

namespace Invocation

/-- Whether colours are wanted, as far as the configuration does not say otherwise. -/
def wantsColors (invocation : Invocation) (environment : Environment) : Bool :=
  !invocation.noColor && environment.noColor.isNone

/-- Whether colours are wanted. The configuration can only turn them off. -/
def colors (invocation : Invocation) (environment : Environment) (config : Config) : Bool :=
  invocation.wantsColors environment && config.colors

/-- How the work on a query is watched. -/
def diagnostics (invocation : Invocation) : Diagnostics :=
  if invocation.traceParser then .tracing else .silent

/-! ## Tables -/

/-- The configuration of a run. -/
def loadConfig (world : World) : Except Failure Config :=
  (Config.load world.tree world.environment.configPath).mapError .config

/-- The delimiter of a table. The command line comes before the configuration. -/
def delimiterOf (source : Source) (config : Config) : Except Config.Fault Char :=
  match source.delimiter with
  | some text => Config.readDelimiter text
  | none => config.tableDelimiter

/-- The text of a table. -/
def textOf (source : Source) (world : World) : Except File.Fault String :=
  match source.file with
  | some path => world.tree.readText path
  | none => File.Tree.decode world.input

/-- Reads a table. -/
def readTable (source : Source) (config : Config) (world : World) : Except Failure Table := do
  let delimiter ← (delimiterOf source config).mapError .config
  let text ← (textOf source world).mapError .file
  return Table.parse text delimiter (!source.noHeader && config.hasHeader)

/-! ## Commands -/

/-- Shows the rows of a table that a query keeps. -/
def runFilter (invocation : Invocation) (world : World) (query : String) (source : Source)
    (showing : Showing) : Except Failure Written := do
  let config ← loadConfig world
  let colors := invocation.colors world.environment config
  let table ← readTable source config world
  let directory ← table.directory.mapError .table
  let filter ← (Query.compile invocation.diagnostics directory query).mapError .filter
  let predicate := if invocation.verbose then "Predicate: " ++ filter.description ++ "\n" else ""
  let evaluation := (RowCache.empty.evaluate filter directory table.rows).1
  let written : Written :=
    match showing with
    | .filter =>
      if invocation.json then .json (Report.explainJson query filter)
      else .plain (Report.explainText filter colors)
    | .count =>
      if invocation.json then .json (Report.countJson query evaluation)
      else .plain (evaluation.matched.repr ++ "\n")
    | .rows =>
      if invocation.json then .json (Report.rowsJson query filter table directory evaluation)
      else
        { output := Report.rowsText table evaluation colors
          notes :=
            if !invocation.quiet && config.showsCount then
              Report.summary evaluation colors ++ "\n"
            else "" }
  return { written with notes := predicate ++ written.notes }

/-- Lists the columns of a table. -/
def runColumns (invocation : Invocation) (world : World) (source : Source) :
    Except Failure Written := do
  let config ← loadConfig world
  let table ← readTable source config world
  let directory ← table.directory.mapError .table
  return if invocation.json then .json (Report.columnsJson directory)
    else .plain (Report.columnsText directory (invocation.colors world.environment config))

/-- Explains the query language. -/
def runGuide (invocation : Invocation) : Written :=
  if invocation.json then
    .json (.obj [("examples", .str Help.examples), ("syntax", .str Help.grammar)])
  else .plain Help.full

/-- The first part of what is shown of the configuration. -/
def configOpening (path : String) (present colors : Bool) : String :=
  Report.heading colors "Configuration" ++ "\n\n" ++
    "File: " ++ path ++ "\n" ++
    "Exists: " ++ toString present ++ "\n\n" ++
    "Settings:\n"

/-- The second part of what is shown of the configuration. -/
def configSettings (config : Config) (delimiter : Char) (present : Bool) : String :=
  "  delimiter: " ++ Text.escapePlain (String.singleton delimiter) ++ "\n" ++
    "  header: " ++ toString config.hasHeader ++ "\n" ++
    "\n[output]\n" ++
    "  color: " ++ toString config.colors ++ "\n" ++
    "  show_count: " ++ toString config.showsCount ++ "\n" ++
    if present then ""
    else "\n(No config file exists. Run 'rf config init' to create one.)\n"

/-- Shows the configuration. As text, the first part is written before the delimiter is looked at,
and stands also where that turns out to be none. -/
def runShowConfig (invocation : Invocation) (world : World) : String × Option Failure :=
  match loadConfig world with
  | .error failure => ("", some failure)
  | .ok config =>
    let path := world.environment.configPath
    let present := world.tree.contains path
    if invocation.json then
      ((Written.json (.obj
        [("config", config.json), ("exists", .bool present), ("path", .str path)])).output, none)
    else if invocation.quiet then ("", none)
    else
      let opening := configOpening path present (invocation.wantsColors world.environment)
      match config.tableDelimiter with
      | .error fault => (opening, some (.config fault))
      | .ok delimiter => (opening ++ configSettings config delimiter present, none)

/-- Shows the path of the configuration file. -/
def runConfigPath (invocation : Invocation) (world : World) : Written :=
  let path := world.environment.configPath
  if invocation.json then
    .json (.obj [("exists", .bool (world.tree.contains path)), ("path", .str path)])
  else .plain (path ++ "\n")

/-- What is written once the configuration file for a start is there. -/
def installed (invocation : Invocation) (path : String) : Written :=
  if invocation.json then .json (.obj [("path", .str path), ("status", .str "success")])
  else if invocation.quiet then .plain ""
  else .plain ("Created config at: " ++ path ++ "\n")

/-- The outcome of a command that changes no files. -/
def outcomeOf (world : World) (result : Except Failure Written) : Outcome :=
  match result with
  | .ok written => { written with tree := world.tree, failure := none }
  | .error failure => { output := "", notes := "", tree := world.tree, failure := some failure }

/-- The run of a command. -/
def run (invocation : Invocation) (world : World) : Outcome :=
  match invocation.command with
  | .filter query source showing =>
    outcomeOf world (invocation.runFilter world query source showing)
  | .columns source => outcomeOf world (invocation.runColumns world source)
  | .guide => outcomeOf world (.ok invocation.runGuide)
  | .showConfig =>
    let (output, failure) := invocation.runShowConfig world
    { output, notes := "", tree := world.tree, failure }
  | .configPath => outcomeOf world (.ok (invocation.runConfigPath world))
  | .initConfig force =>
    let path := world.environment.configPath
    match Config.install world.tree path force with
    | (tree, .error fault) => { output := "", notes := "", tree, failure := some (.config fault) }
    | (tree, .ok ()) => { invocation.installed path with tree, failure := none }
  | .completions shell => outcomeOf world (.ok (.plain (Completion.script shell)))

/-- The paths that a run looks at. -/
def paths (invocation : Invocation) (environment : Environment) : List String :=
  match invocation.command with
  | .filter _ source _ => environment.configPath :: source.file.toList
  | .columns source => environment.configPath :: source.file.toList
  | .guide => []
  | .completions _ => []
  | _ => [environment.configPath]

/-- Whether a run reads standard input. -/
def readsInput (invocation : Invocation) : Bool :=
  match invocation.command with
  | .filter _ source _ => source.file.isNone
  | .columns source => source.file.isNone
  | _ => false

end Invocation
end RowQuery
