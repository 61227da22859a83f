import Folio.Console.Failure

/-!
# Runs

A run writes and may fail on the way. What it has written before it fails stays written.

Main definitions:

* `Run`: what is written, and what comes of it.
* `Run.write`, `Run.fail`: a run that writes a text, and one that fails.
* `Run.answer`: what a run writes, if it does not fail.
-/

namespace Folio.Console

/-- What a run has written when it ends, and what comes of it. -/
structure Run (α : Type) where
  written : String
  result : Except Failure α
  deriving Inhabited

namespace Run

/-- A run that writes nothing. -/
def attempt (result : Except Failure α) : Run α := ⟨"", result⟩

/-- A run that writes a text. -/
def write (text : String) : Run Unit := ⟨text, .ok ()⟩

/-- A run that fails. -/
def fail (failure : Failure) : Run α := attempt (.error failure)

/-- One run after another, which begins only if the first does not fail. -/
def bind (run : Run α) (next : α → Run β) : Run β :=
  match run.result with
  | .ok a => ⟨run.written ++ (next a).written, (next a).result⟩
  | .error failure => ⟨run.written, .error failure⟩

instance : Monad Run where
  pure a := attempt (.ok a)
  bind := bind

instance : MonadLift (Except Failure) Run := ⟨attempt⟩

/-- What a run writes, if it does not fail. -/
def answer (run : Run Unit) : Except Failure String := run.result.map fun _ => run.written

end Run

end Folio.Console
