import RowQuery.Command.Arguments
import RowQuery.Command.Run

/-!
The program: it looks at the files that a run needs, has the run worked out, and writes what comes
of it.
-/
namespace RowQuery.Main

open File (Place Entry)

/-- The text of a place. -/
def pathOf (place : Place) : String := "/" ++ String.intercalate "/" place

/-- The number of the fault of reading a directory as a file. -/
def directoryFault : UInt32 := 21

/-- What stands at a place. -/
def look (place : Place) : IO (Option Entry) := do
  try
    return some (.file (← IO.FS.readBinFile (pathOf place)))
  catch
    | .inappropriateType _ code _ => return if code = directoryFault then some .directory else none
    | _ => return none

/-- The places that a path leads through, so far as its names show. -/
def placesOf (here : Place) (path : String) : List Place :=
  match File.Path.ofString path with
  | .error _ => []
  | .ok path =>
    let start := if path.rooted then [] else here
    let go (place : Place) (name : String) : Place := (File.Tree.step place name).toOption.getD place
    (List.range path.names.length).map fun n => (path.names.take (n + 1)).foldl go start

/-- The files and directories on the way of some paths. -/
def survey (here : Place) (paths : List String) : IO File.Tree := do
  let places := (paths.flatMap (placesOf here)).eraseDups
  let entries ← places.filterMapM fun place => do
    return (← look place).map fun entry => (place, entry)
  return { entries := entries ++ (File.Tree.ofFiles here []).entries, here }

/-- Makes what a run has changed. -/
def apply (changes : List (Place × Entry)) : IO Unit :=
  for (place, entry) in changes.reverse do
    match entry with
    | .directory => IO.FS.createDirAll (pathOf place)
    | .file bytes => IO.FS.writeBinFile (pathOf place) bytes

/-- What is said of a command line that is not run. -/
def usageText : Usage → String
  | .version => "rf 0.1.0\n"
  | _ =>
    "Usage: rf [OPTIONS] <COMMAND>\n\nCommands:\n" ++
      "  filter QUERY [FILE]   Print the rows of a table that match a query\n" ++
      "  columns [FILE]        List the columns a query can refer to\n" ++
      "  syntax                Show query syntax and examples\n" ++
      "  config                Manage configuration: show, path, init\n" ++
      "  completions SHELL     Generate shell completions\n\nOptions:\n" ++
      "  -d, --delimiter TEXT, --no-header, -c, --count, --explain\n" ++
      "  -v, --verbose, -q, --quiet, --json, --no-color, --trace-parser\n" ++
      "  -h, --help, -V, --version\n"

/-- All bytes of standard input. -/
def readInput : IO ByteArray := do
  let stdin ← IO.getStdin
  let mut bytes := ByteArray.empty
  repeat
    let more ← stdin.read 65536
    if more.isEmpty then break
    bytes := bytes ++ more
  return bytes

/-- The environment of the process. -/
def environment : IO Environment := do
  let home ← IO.getEnv "HOME"
  return {
    config := ← IO.getEnv "RF_CONFIG"
    configHome := ← IO.getEnv "XDG_CONFIG_HOME"
    home
    noColor := ← IO.getEnv "NO_COLOR"
    accountHome := home.getD "" }

/-- The names that lead to the working directory. -/
def workingDirectory : IO Place := do
  let path := toString (← IO.currentDir)
  return ((Text.split '/' path.toList).filter fun name => !name.isEmpty).map String.ofList

end RowQuery.Main

open RowQuery in
/-- Runs the program. -/
def main (words : List String) : IO UInt32 := do
  match Invocation.ofArguments words with
  | .error usage =>
    if usage.exitCode = 0 then IO.print (Main.usageText usage)
    else IO.eprint (Main.usageText usage)
    return usage.exitCode.toUInt32
  | .ok invocation =>
    let environment ← Main.environment
    let tree ← Main.survey (← Main.workingDirectory) (invocation.paths environment)
    let input ← if invocation.readsInput then Main.readInput else pure ByteArray.empty
    let outcome := invocation.run { environment, tree, input }
    Main.apply (outcome.tree.changes tree)
    IO.print outcome.output
    IO.eprint (outcome.notes ++ outcome.closing invocation.json)
    return outcome.exitCode.toUInt32
