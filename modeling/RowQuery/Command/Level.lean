import RowQuery.Command.Invocation

/-!
The words of the command line.

* `Switch`: the words that are given or not.
* `Slot`: the places for values.
* `Level`: the commands and the commands below them, and the words that each of them takes.
-/
namespace RowQuery

/-- Words that are given or not. -/
inductive Switch where
  | verbose
  | quiet
  | json
  | noColor
  | traceParser
  | noHeader
  | count
  | explain
  | force
  | help
  | version
deriving DecidableEq, Repr

namespace Switch

/-- The word, behind two dashes. -/
def name : Switch → String
  | verbose => "verbose"
  | quiet => "quiet"
  | json => "json"
  | noColor => "no-color"
  | traceParser => "trace-parser"
  | noHeader => "no-header"
  | count => "count"
  | explain => "explain"
  | force => "force"
  | help => "help"
  | version => "version"

/-- The letter, behind one dash. -/
def letter? : Switch → Option Char
  | verbose => some 'v'
  | quiet => some 'q'
  | count => some 'c'
  | help => some 'h'
  | version => some 'V'
  | _ => none

/-- The switches that may be given with every command. -/
def common : List Switch := [verbose, quiet, json, noColor, traceParser, help, version]

end Switch

/-- Places for values. -/
inductive Slot where
  | query
  | file
  | shell
  | delimiter
deriving DecidableEq, Repr

/-- Whether a place takes a value. -/
def Slot.accepts : Slot → String → Bool
  | file, value => value ≠ ""
  | shell, value => (Shell.ofName? value).isSome
  | _, _ => true

/-- A command, or what stands before the commands. -/
inductive Level where
  | top
  | filter
  | columns
  | guide
  | config
  | configShow
  | configPath
  | configInit
  | completions
deriving DecidableEq, Repr

namespace Level

/-- The switches of a level. -/
def switches : Level → List Switch
  | filter => [.noHeader, .count, .explain] ++ Switch.common
  | columns => .noHeader :: Switch.common
  | configInit => .force :: Switch.common
  | _ => Switch.common

/-- Whether a level takes a delimiter. -/
def takesDelimiter : Level → Bool
  | filter => true
  | columns => true
  | _ => false

/-- The places for values without a name, in the order in which they are filled. -/
def operands : Level → List Slot
  | filter => [.query, .file]
  | columns => [.file]
  | completions => [.shell]
  | _ => []

/-- The commands below a level. -/
def below : Level → List (String × Level)
  | top =>
    [("filter", filter), ("f", filter), ("columns", columns), ("syntax", guide),
      ("config", config), ("completions", completions)]
  | config => [("show", configShow), ("path", configPath), ("init", configInit)]
  | _ => []

/-- The command of a name. -/
def below? (level : Level) (name : String) : Option Level := level.below.lookup name

/-- Whether a word asks for help in the place of a command. -/
def isHelp (level : Level) (word : String) : Bool := !level.below.isEmpty && word = "help"

/-- What comes of a call for help on the commands that words name. -/
def help (level : Level) : List String → Usage
  | [] => .help
  | word :: rest =>
    match level.below? word with
    | some next => next.help rest
    | none => if level.isHelp word ∧ rest = [] then .help else .unknownCommand

end Level
end RowQuery
