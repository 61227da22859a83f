import Folio.Console.Grammar
import Folio.Text.Split

/-!
# Reading a command line

A command line is read from left to right. A value is checked when the next thing is given, and
what is given for a command is complete when all commands below it are.

Main definitions:

* `ArgumentError`: why a command line asks for nothing that can be done.
* `Word`: what a text can be on a command line.
* `Command.parse`: what a command line asks for.
-/

namespace Folio.Console

/-! ## Errors -/

/-- Why a command line asks for nothing that can be done. -/
inductive ArgumentError where
  /-- The usage is asked for, of the command at the end of a path. -/
  | help (path : List String)
  /-- The version is asked for, of the command at the end of a path. -/
  | version (path : List String)
  /-- Nothing at all is given for a group of commands. -/
  | nothingGiven (path : List String)
  /-- No command of a group is named. -/
  | missingCommand (path : List String)
  /-- A text stands where a command of a group should. -/
  | unknownCommand (text : String)
  /-- A text stands where nothing can. -/
  | unknownArgument (text : String)
  /-- An argument has a value that is not of its domain. -/
  | invalidValue (name value : String)
  /-- An argument lacks its value. -/
  | missingValue (name : String)
  /-- An argument has a value and takes none. -/
  | needlessValue (name : String)
  /-- An argument is given twice. -/
  | repeated (name : String)
  /-- Two arguments are given that exclude each other. -/
  | conflict (one other : String)
  /-- An operand is not given. -/
  | missingOperand (name : String)
  deriving DecidableEq, Repr, Inhabited

/-- An error in words. -/
def ArgumentError.message : ArgumentError → String
  | help path => "usage of '" ++ " ".intercalate path ++ "'"
  | version path => "version of '" ++ " ".intercalate path ++ "'"
  | nothingGiven path => "'" ++ " ".intercalate path ++ "' needs a command"
  | missingCommand path => "'" ++ " ".intercalate path ++ "' needs a command"
  | unknownCommand text => "unknown command '" ++ text ++ "'"
  | unknownArgument text => "unexpected argument '" ++ text ++ "'"
  | invalidValue name value => "invalid value '" ++ value ++ "' for '" ++ name ++ "'"
  | missingValue name => "'" ++ name ++ "' needs a value"
  | needlessValue name => "'" ++ name ++ "' takes no value"
  | repeated name => "'" ++ name ++ "' can be given only once"
  | conflict one other => "'" ++ one ++ "' cannot be given with '" ++ other ++ "'"
  | missingOperand name => "'" ++ name ++ "' is missing"

/-! ## Words -/

/-- What a text can be on a command line. -/
inductive Word where
  /-- Two hyphens: all that follows is given by place. -/
  | separator
  /-- A name after two hyphens, with a value if an equals sign follows. -/
  | name (name : String) (value : Option String)
  /-- Letters after one hyphen. -/
  | letters (letters : List Char)
  /-- Anything else. -/
  | plain
  deriving DecidableEq, Repr, Inhabited

/-- What a text is. A hyphen alone is like any other text. -/
def Word.ofText (text : String) : Word :=
  match text.toList with
  | ['-', '-'] => separator
  | '-' :: '-' :: rest =>
    match Text.cutFirst '=' rest with
    | some (before, after) => name (.ofList before) (some (.ofList after))
    | none => name (.ofList rest) none
  | '-' :: c :: rest => letters (c :: rest)
  | _ => plain

/-! ## The state of a reading -/

/-- A value that is still to be checked, or still to come. -/
structure Pending where
  name : String
  domain : Domain
  value : Option String
  deriving DecidableEq, Repr, Inhabited

/-- How far the reading for one command has come. -/
structure State where
  /-- What has been given and checked. -/
  line : List (String × String)
  pending : Option Pending
  /-- The operands that have not been given. -/
  operands : List Operand
  /-- Whether the separator has been read. -/
  separated : Bool
  deriving DecidableEq, Repr, Inhabited

namespace State

/-- The state in which the reading for a command begins. -/
def start (command : Command α) : State := ⟨[], none, command.operands, false⟩

/-- Whether something has been given under a name. -/
def has (state : State) (name : String) : Bool := (state.line.lookup name).isSome

/-- Whether the next text is a value, if it has no hyphens. -/
def awaits (state : State) : Bool :=
  !state.separated && (state.pending.map (·.value.isNone)).getD false

/-- The state with one more thing given. -/
def add (state : State) (name value : String) : State :=
  { state with line := state.line ++ [(name, value)] }

/-- The state with the pending value checked. -/
def settle (state : State) : Except ArgumentError State :=
  match state.pending with
  | none => .ok state
  | some ⟨name, _, none⟩ => .error (.missingValue name)
  | some ⟨name, domain, some value⟩ =>
    if state.has name then .error (.repeated name)
    else if domain.admits value then .ok { state.add name value with pending := none }
    else .error (.invalidValue name value)

/-- Gives an argument by its name alone. `path` leads to the command that it is given for. -/
def give (path : List String) (state : State) (argument : Argument) :
    Except ArgumentError State := do
  let state ← state.settle
  match argument.purpose with
  | .flag =>
    if state.has argument.name then .error (.repeated argument.name)
    else .ok (state.add argument.name "")
  | .count => .ok (state.add argument.name "")
  | .help => .error (.help path)
  | .version => .error (.version path)
  | .value domain => .ok { state with pending := some ⟨argument.name, domain, none⟩ }

/-- Gives an argument with a value attached to its name. -/
def giveValue (state : State) (argument : Argument) (value : String) :
    Except ArgumentError State :=
  match argument.purpose with
  | .value domain => do
    let state ← state.settle
    settle { state with pending := some ⟨argument.name, domain, some value⟩ }
  | _ => .error (.needlessValue argument.name)

/-- Gives arguments by letters. What follows the letter of an argument that has a value is the
value; an equals sign between them does not count. -/
def giveLetters (command : Command α) (path : List String) (state : State) :
    List Char → Except ArgumentError State
  | [] => .ok state
  | c :: rest =>
    match command.ofLetter? c with
    | none => .error (.unknownArgument (.ofList ['-', c]))
    | some argument =>
      match argument.domain?, rest with
      | some _, '=' :: value => state.giveValue argument (.ofList value)
      | some _, v :: value => state.giveValue argument (.ofList (v :: value))
      | some _, [] => state.give path argument
      | none, rest => do giveLetters command path (← state.give path argument) rest

/-- Gives the next operand. A group of commands has none, and the text is then taken for a misplaced
command. -/
def giveOperand (command : Command α) (state : State) (text : String) :
    Except ArgumentError State :=
  match state.operands with
  | operand :: rest => do
    let state ← state.settle
    .ok { state with pending := some ⟨operand.name, operand.domain, some text⟩, operands := rest }
  | [] =>
    match command with
    | .leaf .. => .error (.unknownArgument text)
    | .group _ _ commands =>
      if state.separated && (text = "help" || commands.any (·.name == text)) then
        .error (.unknownArgument text)
      else .error (.unknownCommand text)

/-- Gives a text that is neither a name nor letters: a value that is awaited, or an operand. -/
def givePlain (command : Command α) (state : State) (text : String) :
    Except ArgumentError State :=
  match state.awaits, state.pending with
  | true, some pending => .ok { state with pending := some { pending with value := some text } }
  | _, _ => state.giveOperand command text

/-- Gives a text that names no command. -/
def read (command : Command α) (path : List String) (state : State) (text : String) :
    Except ArgumentError State :=
  if state.separated then state.giveOperand command text
  else
    match Word.ofText text with
    | .separator => .ok { state with separated := true }
    | .name name value =>
      match command.ofName? name, value with
      | none, _ => .error (.unknownArgument ("--" ++ name))
      | some argument, some value => state.giveValue argument value
      | some argument, none => state.give path argument
    | .letters letters => state.giveLetters command path letters
    | .plain => state.givePlain command text

end State

/-! ## Commands -/

namespace Command

/-- Whether a text asks for the usage of a command of a group. -/
def isHelp (command : Command α) (state : State) (text : String) : Bool :=
  !state.separated && !state.awaits && text = "help" && !command.commands.isEmpty

/-- The command that a text names, where it can name one. -/
def chosen? (command : Command α) (state : State) (text : String) : Option (Command α) :=
  if state.separated || state.awaits then none else command.below? text

/-- The answer to a request for the usage of the command that names lead to. A group has `help` as
one of its commands, with none below it. -/
def helpAt (command : Command α) (path : List String) : List String → ArgumentError
  | [] => .help path
  | text :: rest =>
    match command.below? text with
    | some child => helpAt child (path ++ [child.name]) rest
    | none =>
      if text = "help" && !command.commands.isEmpty then
        match rest with
        | [] => .help (path ++ ["help"])
        | next :: _ => .unknownCommand next
      else .unknownCommand text

/-- What the environment gives for a command beyond the command line. -/
def fromEnvironment (command : Command α) (environment : List (String × String)) (state : State) :
    Except ArgumentError (List (String × String)) := do
  let given ← command.arguments.mapM fun argument =>
    match argument.domain?, argument.environment.bind fun name => environment.lookup name with
    | some domain, some value =>
      if state.has argument.name then .ok none
      else if domain.admits value then .ok (some (argument.name, value))
      else .error (.invalidValue argument.name value)
    | _, _ => .ok none
  .ok (given.filterMap id)

/-- What is given for a command, when all has been read. -/
def close (command : Command α) (environment : List (String × String)) (state : State) :
    Except ArgumentError Level := do
  let state ← state.settle
  .ok ⟨state.line, ← command.fromEnvironment environment state⟩

/-- Whether what is given for a command that does something is complete and without conflicts. -/
def check (operands : List Operand) (conflicts : List (String × String)) (level : Level) :
    Except ArgumentError Unit :=
  let given (name : String) : Bool := (level.line.lookup name).isSome
  match conflicts.find? fun (one, other) => given one && given other with
  | some (one, other) => .error (.conflict one other)
  | none =>
    match operands.find? fun operand => !given operand.name with
    | some operand => .error (.missingOperand operand.name)
    | none => .ok ()

/-- What is given for a command and those below it, and what they make of it. -/
def readFrom (environment : List (String × String)) (command : Command α) (path : List String)
    (state : State) : List String → Except ArgumentError (Values × (Values → α))
  | [] => do
    let level ← command.close environment state
    match command with
    | .group .. => .error (if level.isEmpty then .nothingGiven path else .missingCommand path)
    | .leaf _ _ operands conflicts build => do
      check operands conflicts level
      .ok ([level], build)
  | text :: rest =>
    if command.isHelp state text then .error (command.helpAt path rest)
    else
      match command.chosen? state text with
      | some child => do
        let (values, build) ←
          readFrom environment child (path ++ [child.name]) (.start child) rest
        .ok ((← command.close environment state) :: values, build)
      | none => do readFrom environment command path (← state.read command path text) rest

/-- What a command line asks for, in an environment of variables with their values. -/
def parse (command : Command α) (environment : List (String × String)) (args : List String) :
    Except ArgumentError α := do
  let (values, build) ← command.readFrom environment [command.name] (.start command) args
  .ok (build values)

end Command

end Folio.Console
