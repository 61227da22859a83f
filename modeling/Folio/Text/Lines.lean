/-!
# Writing lines

Main definitions:

* `unlines`: lines, each with a line feed after it.
* `endLine`: a text with a line feed at its end.
-/

namespace Folio.Text

/-- Lines, each with a line feed after it. -/
def unlines (lines : List String) : String := String.join (lines.map (· ++ "\n"))

/-- A text with a line feed at its end: its own, or one more. -/
def endLine (text : String) : String :=
  if text.toList.getLast? = some '\n' then text else text ++ "\n"

end Folio.Text
