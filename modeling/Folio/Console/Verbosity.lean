/-!
# Verbosity

Main definition:

* `verbosityDirective`: which messages are logged at a level of verbosity.
-/

namespace Folio

/-- The sources of messages that verbosity bears on. -/
def logSources : List String := ["specdex", "specdex_catalog", "specdex_core"]

/-- The least severity that is logged from these sources, if they are not treated like all
others. -/
def severityOf? : (verbosity : Nat) → Option String
  | 0 => none
  | 1 => some "info"
  | 2 => some "debug"
  | _ => some "trace"

/-- Which messages are logged: warnings from all sources, and more from some of them. -/
def verbosityDirective (verbosity : Nat) : String :=
  match severityOf? verbosity with
  | none => "warn"
  | some severity =>
    ",".intercalate ("warn" :: logSources.map fun source => source ++ "=" ++ severity)

end Folio
