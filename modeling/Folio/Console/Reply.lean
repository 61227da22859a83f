import Folio.Console.BlogAnswer
import Folio.Console.CatalogAnswer
import Folio.Console.Completion
import Folio.Console.Usage

/-!
# Replies

A command line is read and then run. Settings are read before anything else, and only for what
reads files.

Main definitions:

* `Invocation.run`: the run for a request.
* `Reply`: what the program gives back.
* `reply`: what the program gives back for a command line.
-/

namespace Folio.Console

/-- The version of the program. -/
def programVersion : String := "0.3.0"

/-- The program with its version and the extensions of documents. -/
def versionText : Presentation → String
  | .json =>
    jsonText <| .object [("name", .string programName), ("version", .string programVersion),
      ("supportedExtensions", .strings Format.extensions)]
  | .human =>
    Text.unlines [programName ++ " " ++ programVersion,
      "reads: " ++ ", ".intercalate Format.extensions]

/-- The run for an invocation at a time. Settings are needed only for what reads files. -/
def Invocation.run (fs : FileSystem) (now : Instant) (invocation : Invocation) : Run Unit :=
  match invocation.request with
  | .catalog query presentation => do
    let settings ← (Settings.resolve fs invocation.overrides).mapError Failure.settings
    query.run settings fs presentation
  | .blog query presentation => do
    let settings ← (Settings.resolve fs invocation.overrides).mapError Failure.settings
    query.run settings fs now presentation
  | .completions shell => .write (completionScript shell)
  | .version presentation => .write (versionText presentation)

/-- What the program gives back. -/
structure Reply where
  status : Nat
  output : String
  failure : Option Failure
  deriving Repr, Inhabited

/-- What a failure still writes: the usage or the version, where it is asked for. -/
def Failure.output : Failure → String
  | arguments (.help path) => usageOf path
  | arguments (.version path) => "-".intercalate path ++ " " ++ programVersion ++ "\n"
  | _ => ""

/-- The reply for an answer or a failure. -/
def Reply.ofAnswer : Except Failure String → Reply
  | .ok text => ⟨0, text, none⟩
  | .error failure => ⟨failure.status, failure.output, some failure⟩

/-- The reply for a run. What is written before a failure stays in the output. -/
def Reply.ofRun (run : Run Unit) : Reply :=
  { Reply.ofAnswer run.answer with output := run.written }

/-- What the program gives back for a command line, in an environment of variables. -/
def reply (fs : FileSystem) (now : Instant) (environment : List (String × String))
    (args : List String) : Reply :=
  match Invocation.parse environment args with
  | .error error => .ofAnswer (.error (.arguments error))
  | .ok invocation => .ofRun (invocation.run fs now)

end Folio.Console
