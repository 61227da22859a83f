/-!
# Patterns

Regular expressions of the shape that fields are read by: parts in sequence, some of which are a
group. A part that stands for any number of characters takes as many as there are and gives them
back one by one where what comes after it does not match. So among the matches in a text those that
begin first are preferred, and among these the one that is tried first.

Main definitions:

* `Place`: a place in a text.
* `Part`: one character, any number of characters, or the beginning or the end of a line.
* `Part.ends`: the places where a part can end, in the order in which they are tried.
* `Pattern.capture?`: the text of the group in the preferred match.
-/

namespace Folio.Text

/-! ## Places -/

/-- A place in a text. -/
structure Place where
  /-- What stands before the place, in reverse. -/
  before : List Char
  after : List Char
  deriving DecidableEq, Repr

namespace Place

/-- The place behind the next character, if that satisfies `p`. -/
def next? (p : Char → Bool) : Place → Option Place
  | ⟨before, c :: after⟩ => if p c then some ⟨c :: before, after⟩ else none
  | ⟨_, []⟩ => none

/-- The places behind any number of characters that satisfy `p`, the farthest first. Those that have
been passed already come last. -/
def spread (p : Char → Bool) (passed : List Place) (before : List Char) : List Char → List Place
  | [] => ⟨before, []⟩ :: passed
  | c :: after =>
    if p c then spread p (⟨before, c :: after⟩ :: passed) (c :: before) after
    else ⟨before, c :: after⟩ :: passed

/-- Whether a line begins at a place. -/
def isLineStart (place : Place) : Bool := place.before.head?.all (· == '\n')

/-- Whether a line ends at a place. -/
def isLineEnd (place : Place) : Bool := place.after.head?.all (· == '\n')

/-- The text from a place to a later one. -/
def textTo (start stop : Place) : List Char :=
  start.after.take (start.after.length - stop.after.length)

end Place

/-! ## Parts -/

/-- A part of a pattern. -/
inductive Part where
  /-- One character that satisfies `p`. -/
  | one (p : Char → Bool)
  /-- Any number of characters that satisfy `p`. -/
  | many (p : Char → Bool)
  | lineStart
  | lineEnd

/-- The places where a part can end, the preferred first. -/
def Part.ends : Part → Place → List Place
  | one p, place => (place.next? p).toList
  | many p, place => Place.spread p [] place.before place.after
  | lineStart, place => if place.isLineStart then [place] else []
  | lineEnd, place => if place.isLineEnd then [place] else []

/-- One or more characters that satisfy `p`. -/
def Part.run (p : Char → Bool) : List Part := [one p, many p]

/-- The result at the end of parts in sequence, for the first way to match them that has one. -/
def firstMatch? {α : Type} : List Part → (Place → Option α) → Place → Option α
  | [], result, place => result place
  | part :: parts, result, place => (part.ends place).findSome? (firstMatch? parts result)

/-! ## Patterns -/

/-- Parts in sequence with a group among them. -/
structure Pattern where
  lead : List Part
  group : List Part
  tail : List Part

namespace Pattern

/-- The text of the group in the preferred match at a place. -/
def captureAt? (pattern : Pattern) : Place → Option (List Char) :=
  firstMatch? pattern.lead fun start =>
    firstMatch? pattern.group (fun stop =>
      firstMatch? pattern.tail (fun _ => some (start.textTo stop)) stop) start

/-- The text of the group in the preferred match at the first place that has one. -/
def captureFrom? (pattern : Pattern) (before : List Char) : List Char → Option (List Char)
  | [] => pattern.captureAt? ⟨before, []⟩
  | c :: after =>
    match pattern.captureAt? ⟨before, c :: after⟩ with
    | some text => some text
    | none => captureFrom? pattern (c :: before) after

/-- The text of the group in the preferred match in a text. -/
def capture? (pattern : Pattern) (text : List Char) : Option (List Char) :=
  pattern.captureFrom? [] text

end Pattern

end Folio.Text
