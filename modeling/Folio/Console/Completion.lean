import Folio.Console.Program

/-!
# Completion

Main definition:

* `completionScript`: a script with which a shell completes the names of commands.
-/

namespace Folio.Console

/-- The names of the commands of the program. -/
def commandNames : List String := program.commands.map Command.name

/-- A script with which a shell completes the names of commands. -/
def completionScript (shell : Shell) : String :=
  let names := " ".intercalate commandNames
  match shell with
  | .bash => "complete -W '" ++ names ++ "' " ++ programName ++ "\n"
  | .elvish =>
    "set edit:completion:arg-completer[" ++ programName ++ "] = \x7b|@words| put " ++ names
      ++ " \x7d\n"
  | .fish =>
    "complete -c " ++ programName ++ " -f -n __fish_use_subcommand -a '" ++ names ++ "'\n"
  | .powershell =>
    "Register-ArgumentCompleter -Native -CommandName " ++ programName
      ++ " -ScriptBlock \x7b param($word) '" ++ "', '".intercalate commandNames
      ++ "' | Where-Object \x7b $_ -like \"$word*\" \x7d \x7d\n"
  | .zsh => "#compdef " ++ programName ++ "\n_arguments '1:command:(" ++ names ++ ")'\n"

end Folio.Console
