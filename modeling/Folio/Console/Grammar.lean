/-!
# The shape of a command line

A command line names commands from the program down to one that does something, each with its
arguments. Arguments are given by name, in any order, and operands by their place.

Main definitions:

* `Domain`: the values that an argument may have.
* `Argument`, `Operand`: what is given by name and what is given by place.
* `Values`: what is given, command by command.
* `Command`: a group of commands to choose from, or a command that does something.
-/

namespace Folio.Console

/-! ## Arguments -/

/-- The values that an argument may have. -/
inductive Domain where
  /-- Any text. -/
  | text
  /-- Any text that is not empty. -/
  | path
  /-- One of some words, spelled exactly so. -/
  | choice (words : List String)
  deriving DecidableEq, Repr, Inhabited

/-- Whether a text is a value of a domain. -/
def Domain.admits : Domain → String → Bool
  | text, _ => true
  | path, value => value ≠ ""
  | choice words, value => words.contains value

/-- What an argument is for. -/
inductive Purpose where
  /-- To be given or not, at most once. -/
  | flag
  /-- To be given any number of times. -/
  | count
  /-- To ask for the usage of the command instead. -/
  | help
  /-- To ask for the version of the command instead. -/
  | version
  /-- To give a value, at most once. -/
  | value (domain : Domain)
  deriving DecidableEq, Repr, Inhabited

/-- An argument that is given by its name after two hyphens, or its letter after one. -/
structure Argument where
  name : String
  letter : Option Char
  purpose : Purpose
  /-- The environment variable that gives the value when the command line does not. -/
  environment : Option String
  deriving DecidableEq, Repr, Inhabited

/-- The domain of a value that an argument has; other arguments have none. -/
def Argument.domain? (argument : Argument) : Option Domain :=
  match argument.purpose with
  | .value domain => some domain
  | _ => none

/-- An argument that is given by its place. -/
structure Operand where
  name : String
  domain : Domain
  deriving DecidableEq, Repr, Inhabited

/-! ## Values -/

/-- What is given for one command, by the names of arguments and operands. What is given without a
value has the empty text. -/
structure Level where
  /-- What the command line gives. -/
  line : List (String × String)
  /-- What the environment gives beyond that. -/
  environment : List (String × String)
  deriving DecidableEq, Repr, Inhabited

/-- Whether nothing is given. -/
def Level.isEmpty (level : Level) : Bool := level.line.isEmpty && level.environment.isEmpty

/-- What is given, from the program down to the command that does something. -/
abbrev Values := List Level

namespace Values

/-- The value under a name. The command line counts before the environment, and of several commands
that are given the value the last one counts. -/
def find? (values : Values) (name : String) : Option String :=
  values.reverse.findSome? (·.line.lookup name)
    <|> values.reverse.findSome? (·.environment.lookup name)

/-- The value under a name that is always given. -/
def get (values : Values) (name : String) : String := (values.find? name).getD ""

/-- Whether anything is given under a name. -/
def has (values : Values) (name : String) : Bool := (values.find? name).isSome

/-- How often something is given under a name for the last command that it is given for. -/
def count (values : Values) (name : String) : Nat :=
  let counts := values.reverse.map fun level => level.line.countP fun entry => entry.1 == name
  (counts.find? (· ≠ 0)).getD 0

end Values

/-! ## Commands -/

/-- A command. -/
inductive Command (α : Type) where
  /-- A group of commands, one of which has to follow. -/
  | group (name : String) (arguments : List Argument) (commands : List (Command α))
  /-- A command that does something. All operands have to be given, and of each pair of conflicts
  at most one. -/
  | leaf (name : String) (arguments : List Argument) (operands : List Operand)
      (conflicts : List (String × String)) (build : Values → α)

namespace Command

/-- The name of a command. -/
def name : Command α → String
  | group name .. => name
  | leaf name .. => name

/-- What can be given by name. -/
def arguments : Command α → List Argument
  | group _ arguments _ => arguments
  | leaf _ arguments .. => arguments

/-- What has to be given by place. -/
def operands : Command α → List Operand
  | group .. => []
  | leaf _ _ operands .. => operands

/-- The commands to choose from. -/
def commands : Command α → List (Command α)
  | group _ _ commands => commands
  | leaf .. => []

/-- The argument of a name. -/
def ofName? (command : Command α) (name : String) : Option Argument :=
  command.arguments.find? (·.name == name)

/-- The argument of a letter. -/
def ofLetter? (command : Command α) (letter : Char) : Option Argument :=
  command.arguments.find? (·.letter == some letter)

/-- The command of a name below a command. -/
def below? (command : Command α) (name : String) : Option (Command α) :=
  command.commands.find? (·.name == name)

end Command

end Folio.Console
