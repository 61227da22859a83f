import Folio.Console.Program
import Folio.Text.Lines

/-!
# Usage

Main definition:

* `usageOf`: how the command at the end of a path is used.
-/

namespace Folio.Console

/-- How an argument is written. -/
def Argument.synopsis (argument : Argument) : String :=
  let letter := (argument.letter.map fun c => .ofList ['-', c, ',', ' ']).getD "    "
  let value := match argument.domain? with
    | some (.choice words) => " <" ++ "|".intercalate words ++ ">"
    | some _ => " <" ++ argument.name ++ ">"
    | none => ""
  letter ++ "--" ++ argument.name ++ value

/-- The command that names lead to from another. A name that leads nowhere is passed over. -/
def Command.follow (command : Command α) : List String → Command α
  | [] => command
  | name :: rest => ((command.below? name).getD command).follow rest

/-- How a command is used that names lead to. -/
def Command.usage (command : Command α) (path : List String) : String :=
  let words := path
    ++ (if command.commands.isEmpty then [] else ["<command>"])
    ++ command.operands.map fun operand => "<" ++ operand.name ++ ">"
  let commands := command.commands.map fun child => "  " ++ child.name
  let arguments := command.arguments.map fun argument => "  " ++ argument.synopsis
  Text.unlines <|
    ["Usage: " ++ " ".intercalate words]
    ++ (if commands.isEmpty then [] else "" :: "Commands:" :: commands)
    ++ (if arguments.isEmpty then [] else "" :: "Options:" :: arguments)

/-- How the command at the end of a path from the program is used. -/
def usageOf (path : List String) : String := (program.follow path.tail).usage path

end Folio.Console
