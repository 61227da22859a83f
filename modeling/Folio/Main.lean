import Folio.Console.Reply
import Folio.Disk
import Std.Time.Format

/-!
# The program

Reads what a command line asks for from disk, and prints the reply.
-/

namespace Folio.Console

/-- The paths that an invocation reads, as far as they are known from files read so far. -/
def Invocation.paths (fs : FileSystem) (invocation : Invocation) : List String :=
  invocation.overrides.config.toList ++
    match Settings.resolve fs invocation.overrides, invocation.request with
    | .ok settings, .catalog .. => [settings.root]
    | .ok settings, .blog .. => [settings.blogDir]
    | _, _ => []

/-- The variables of the environment that the program knows. -/
def readEnvironment : IO (List (String × String)) := do
  let names := sharedArguments.filterMap (·.environment)
  let values ← names.mapM fun name => return (name, ← IO.getEnv name)
  return values.filterMap fun (name, value?) => value?.map fun value => (name, value)

/-- The files that an invocation reads: the settings file first, and then what it tells of. -/
def readFiles (invocation : Invocation) : IO FileSystem := do
  let fs ← Disk.empty
  let fs ← (invocation.paths fs).foldlM Disk.add fs
  (invocation.paths fs).foldlM Disk.add fs

/-- The time. -/
def readClock : IO Instant := do
  let nanoseconds := (← Std.Time.Timestamp.now).toNanosecondsSinceUnixEpoch.toInt
  return ⟨nanoseconds / 1000000000, (nanoseconds % 1000000000).toNat⟩

/-- Prints a reply: the answer, or what went wrong where errors are told. -/
def Reply.print (r : Reply) : IO Unit := do
  IO.print r.output
  match r.failure with
  | some failure =>
    if r.status ≠ 0 then IO.eprintln ("error: " ++ failure.messageBy Yaml.Error.message)
  | none => return

end Folio.Console

open Folio Folio.Console in
/-- Answers a command line. -/
def main (args : List String) : IO UInt32 := do
  let environment ← readEnvironment
  let fs ← match Invocation.parse environment args with
    | .ok invocation => readFiles invocation
    | .error _ => Disk.empty
  let r := reply fs (← readClock) environment args
  r.print
  return r.status.toUInt32
