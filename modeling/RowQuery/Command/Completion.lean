import RowQuery.Command.Level

/-!
Completions for shells: the words that may follow the name of the program.
-/
namespace RowQuery.Completion

/-- The words that are offered: the commands and the switches that all of them take. -/
def words : List String :=
  Level.top.below.map Prod.fst ++ ["help"] ++ Switch.common.map fun switch => "--" ++ switch.name

/-- The completions for a shell. -/
def script (shell : Shell) : String :=
  let offered := String.intercalate " " words
  match shell with
  | .bash => "complete -o default -W '" ++ offered ++ "' rf\n"
  | .zsh => "#compdef rf\n_arguments '*:argument:(" ++ offered ++ ")'\n"
  | .fish => "complete -c rf -a '" ++ offered ++ "'\n"
  | .powershell =>
    "Register-ArgumentCompleter -Native -CommandName rf -ScriptBlock \x7b\n" ++
      "    param($word)\n    '" ++ offered ++ "'.Split(' ') -like \"$word*\"\n\x7d\n"

end RowQuery.Completion
