/-!
What a command line asks for.

* `Command`: the commands.
* `Invocation`: a command with the settings that all commands share.
* `Usage`: why a command line is not run.
-/
namespace RowQuery

/-- The shells that completions are written for. -/
inductive Shell where
  | bash
  | zsh
  | fish
  | powershell
deriving DecidableEq, Repr

/-- The shell of a name. -/
def Shell.ofName? (name : String) : Option Shell :=
  [("bash", .bash), ("zsh", .zsh), ("fish", .fish), ("powershell", .powershell)].lookup name

/-- Where a table comes from and how it is read. -/
structure Source where
  /-- The path of the file; standard input if there is none. -/
  file : Option String
  /-- The delimiter, as it is written. -/
  delimiter : Option String
  /-- Whether the first line is taken for data. -/
  noHeader : Bool
deriving DecidableEq, Repr

/-- What is shown of the rows that a filter keeps. -/
inductive Showing where
  | rows
  /-- Their number. -/
  | count
  /-- The filter, in place of rows. -/
  | filter
deriving DecidableEq, Repr

/-- The commands. -/
inductive Command where
  /-- Shows the rows that a query keeps. -/
  | filter (query : String) (source : Source) (showing : Showing)
  /-- Lists the columns of a table. -/
  | columns (source : Source)
  /-- Explains the query language. -/
  | guide
  /-- Shows the configuration. -/
  | showConfig
  /-- Shows the path of the configuration file. -/
  | configPath
  /-- Writes a configuration file for a start. -/
  | initConfig (force : Bool)
  /-- Writes completions for a shell. -/
  | completions (shell : Shell)
deriving DecidableEq, Repr

/-- A command with the settings that all commands share. -/
structure Invocation where
  command : Command
  verbose : Bool
  quiet : Bool
  json : Bool
  noColor : Bool
  traceParser : Bool
deriving DecidableEq, Repr

/-- Why a command line is not run. -/
inductive Usage where
  /-- A query or a shell is missing. -/
  | missingArgument
  /-- A word has no meaning where it stands. -/
  | unknownArgument
  /-- Two words exclude each other, or one is given twice. -/
  | conflict
  /-- The word where a command is wanted names none. -/
  | unknownCommand
  /-- A value is missing or not one of those allowed. -/
  | badValue
  /-- A switch is given a value. -/
  | switchValue
  /-- There are switches but no command. -/
  | missingCommand
  /-- There is nothing at all. -/
  | nothing
  /-- Help is asked for. -/
  | help
  /-- The version is asked for. -/
  | version
deriving DecidableEq, Repr

/-- The exit code of a command line that is not run. -/
def Usage.exitCode : Usage → Nat
  | .help => 0
  | .version => 0
  | _ => 2

end RowQuery
