import RowQuery.Config.Delimiter
import RowQuery.File.Path
import RowQuery.Json

/-!
The configuration.

* `Config`: what is set; what is not set has a default.
* `Config.Fault`: what can go wrong with it.
* `Config.template`: the configuration file that is written for a start.
* `Config.json`: the configuration as JSON.
-/
namespace RowQuery

/-- What the configuration sets. -/
structure Config where
  /-- The delimiter of tables, as it is written. -/
  delimiter : Option String
  /-- Whether the first line of a table is its header. -/
  header : Option Bool
  /-- Whether colours are wanted. -/
  color : Option Bool
  /-- Whether the number of rows kept is told. -/
  showCount : Option Bool
deriving DecidableEq, Repr

namespace Config

/-- What can go wrong with the configuration. -/
inductive Fault where
  /-- The file is there but cannot be read. -/
  | unreadable (fault : File.Fault)
  /-- The file is no TOML, or sets something to a value of the wrong type. -/
  | malformed
  /-- The text is no delimiter. -/
  | delimiter (text : String)
  /-- There is something at the path already. -/
  | present (path : String)
  /-- The directory of the file cannot be made. -/
  | noDirectory (fault : File.Fault)
  /-- The file cannot be written. -/
  | unwritable (fault : File.Fault)
deriving DecidableEq, Repr

/-- What is said of a fault. -/
def Fault.message : Fault → String
  | .unreadable fault => "Failed to read config: " ++ fault.message
  | .malformed => "Failed to parse config"
  | .delimiter text => Delimiter.refusal text
  | .present path => "Config file already exists at " ++ path ++ ". Use --force to overwrite"
  | .noDirectory fault => "Failed to create config directory: " ++ fault.message
  | .unwritable fault => "Failed to write config: " ++ fault.message

/-- The configuration that sets nothing. -/
def empty : Config := { delimiter := none, header := none, color := none, showCount := none }

/-- The version of the configuration as it is used. A file of any version is read as this one. -/
def version : Nat := 1

/-- The delimiter that a text stands for. -/
def readDelimiter (text : String) : Except Fault Char :=
  match Delimiter.parse? text with
  | some c => .ok c
  | none => .error (.delimiter text)

/-- The delimiter of tables. -/
def tableDelimiter (config : Config) : Except Fault Char :=
  match config.delimiter with
  | some text => readDelimiter text
  | none => .ok Delimiter.default

/-- Whether the first line of a table is its header. -/
def hasHeader (config : Config) : Bool := config.header.getD true

/-- Whether colours are wanted. -/
def colors (config : Config) : Bool := config.color.getD true

/-- Whether the number of rows kept is told. -/
def showsCount (config : Config) : Bool := config.showCount.getD true

/-- The configuration as JSON, with the fields that are set. -/
def json (config : Config) : Json :=
  .obj (Json.field? "delimiter" (config.delimiter.map .str) ++
    Json.field? "header" (config.header.map .bool) ++
    [("output", .obj (Json.field? "color" (config.color.map .bool) ++
        Json.field? "show_count" (config.showCount.map .bool))),
      ("version", .num version)])

/-- The lines of the configuration file that is written for a start. -/
def templateLines : List String :=
  ["# rf - row filter configuration",
    "",
    "# Config schema version (do not modify)",
    "version = 1",
    "",
    "# Cell delimiter: a single character, or \"tab\", \"comma\", \"pipe\",",
    "# \"semicolon\", \"space\"",
    "# delimiter = \"tab\"",
    "",
    "# Treat the first line of a table as the header",
    "# header = true",
    "",
    "# Output preferences",
    "[output]",
    "# color = true        # Enable colors",
    "# show_count = true   # Print \"N of M rows matched\" on stderr"]

/-- The configuration file that is written for a start. -/
def template : String := String.join (templateLines.map (· ++ "\n"))

end Config
end RowQuery
