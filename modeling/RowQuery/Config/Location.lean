import RowQuery.File.Path

/-!
Where the configuration is.

* `Environment`: the settings that a run finds around it.
* `Environment.configPath`: the path of the configuration file.
-/
namespace RowQuery

/-- What a run finds set around it. An empty value counts as set. -/
structure Environment where
  /-- The path of the configuration file: `RF_CONFIG`. -/
  config : Option String
  /-- The directory for the configuration of all programs: `XDG_CONFIG_HOME`. -/
  configHome : Option String
  /-- The directory of the user: `HOME`. -/
  home : Option String
  /-- Set to do without colours: `NO_COLOR`. -/
  noColor : Option String
  /-- The directory of the user as the system knows it, for use if `home` does not help. -/
  accountHome : String
deriving DecidableEq, Repr

namespace Environment

/-- The directory of the user. Here alone an empty value counts as not set. -/
def userHome (environment : Environment) : String :=
  match environment.home with
  | some home => if home = "" then environment.accountHome else home
  | none => environment.accountHome

/-- The directory of the configuration file. -/
def configDirectory (environment : Environment) : String :=
  match environment.configHome with
  | some directory => File.join directory "rf"
  | none => File.join (File.join environment.userHome ".config") "rf"

/-- The path of the configuration file. -/
def configPath (environment : Environment) : String :=
  match environment.config with
  | some path => path
  | none => File.join environment.configDirectory "config.toml"

end Environment
end RowQuery
