import Folio.Json.Basic

/-!
# Presentation

Main definitions:

* `Presentation`: how an answer is written.
* `jsonText`: a value as it is written for programs.
-/

namespace Folio.Console

/-- How an answer is written. -/
inductive Presentation where
  /-- In lines to be read by people. -/
  | human
  /-- As a value to be read by programs. -/
  | json
  deriving DecidableEq, Repr, Inhabited

/-- A value as JSON on lines of its own. -/
def jsonText (value : Json) : String := value.pretty ++ "\n"

end Folio.Console
