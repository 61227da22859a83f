import Folio.Yaml.Cursor

/-!
# Blanks and breaks inside scalars

Plain and quoted scalars may go over several lines. Blanks around a break are dropped, a single
break becomes a space, and of several breaks all but the first are kept.

Main definitions:

* `Gap`: the blanks and breaks since the last other character.
* `Gap.text`: what they amount to.
-/

namespace Folio.Yaml

/-- The blanks and breaks since the last other character, each in reverse. -/
structure Gap where
  /-- Blanks, as long as there is no break. -/
  blanks : List Char
  /-- The first break. An escaped break leaves none. -/
  first : Option Char
  /-- The breaks after the first. -/
  more : List Char
  /-- Whether there was a break, escaped or not. -/
  broken : Bool
  deriving Inhabited

namespace Gap

/-- No gap. -/
def empty : Gap := ⟨[], none, [], false⟩

/-- The gap after an escaped break. -/
def escaped : Gap := ⟨[], none, [], true⟩

/-- The gap with one more blank. Blanks after a break are dropped. -/
def addBlank (g : Gap) (c : Char) : Gap :=
  if g.broken then g else { g with blanks := c :: g.blanks }

/-- The gap with one more break. -/
def addBreak (g : Gap) (c : Char) : Gap :=
  if g.broken then { g with more := breakText c :: g.more }
  else ⟨[], some (breakText c), [], true⟩

/-- What a gap amounts to, in reverse. -/
def text (g : Gap) : List Char :=
  if g.broken then
    if g.first == some '\n' then
      if g.more.isEmpty then [' '] else g.more
    else g.more ++ g.first.toList
  else g.blanks

end Gap

end Folio.Yaml
