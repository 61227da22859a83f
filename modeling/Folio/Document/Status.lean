import Folio.Text.Words
import Folio.Unicode.Case

/-!
# Document status

Main definition:

* `Status.normalize`: the status that a free text stands for; what is not recognised is a draft.
-/

namespace Folio

/-- How settled a document is. -/
inductive Status where
  | draft
  | active
  | standard
  deriving DecidableEq, Repr, Inhabited

namespace Status

/-- The name under which the status is reported. -/
def label : Status → String
  | draft => "Draft"
  | active => "Active"
  | standard => "Standard"

/-- The status that a text stands for, without the white space around it and in lower case. -/
def normalize (raw : String) : Status :=
  let word := Unicode.lowercase (Text.trim raw.toList)
  if word = "active".toList then active
  else if word = "standard".toList || word = "stable".toList then standard
  else draft

end Status

end Folio
