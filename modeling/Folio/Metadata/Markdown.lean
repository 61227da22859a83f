import Folio.Document.Basic
import Folio.Text.Pattern
import Folio.Text.Split
import Folio.Text.Words

/-!
# Metadata of prose documents

The title is the text of the first level-one heading. The other fields stand in bold markers such
as `**Status:** Active` within the first lines of the document.

Main definitions:

* `Markdown.headingPattern`, `Markdown.markerPattern`: what a heading and a marker look like.
* `Markdown.title?`: the text of the first heading.
* `Markdown.marker?`: the value of the first marker with a given key that has a value.
* `Markdown.metadata`: the metadata of a document, with defaults for what it does not say.
-/

namespace Folio.Markdown

open Text (Part Pattern)

/-! ## Title -/

/-- The title of a document without a heading. -/
def untitled : String := "Untitled Specification"

/-- Any character but a line feed. -/
def isInLine (c : Char) : Bool := c != '\n'

theorem isInLine_of_notMem {line : List Char} (h : '\n' ∉ line) : ∀ c ∈ line, isInLine c :=
  fun _ hc => bne_iff_ne.mpr fun heq => h (heq ▸ hc)

/-- A heading: a number sign where a line begins, white space, and text up to the end of a line. -/
def headingPattern : Pattern where
  lead := .lineStart :: .one (· == '#') :: Part.run Unicode.isSpace
  group := Part.run isInLine
  tail := [.lineEnd]

/-- The text of the first heading, if it has any. -/
def title? (content : String) : Option String :=
  ((headingPattern.capture? content.toList).bind Text.trimmed?).map .ofList

/-! ## Markers -/

/-- Markers count within this many lines. -/
def window : Nat := 20

/-- The lines in which markers count. -/
def windowLines (content : String) : List (List Char) :=
  (content.toList.splitOn '\n').take window

/-- What stands for a key in bold. -/
def markOf (key : List Char) : List Char := "**".toList ++ key ++ ":**".toList

/-- A marker: a key in bold, up to case, and what follows it after white space. -/
def markerPattern (key : List Char) : Pattern where
  lead := (markOf key).map (fun k => .one fun c => Unicode.fold k == Unicode.fold c) ++
    [.many Unicode.isSpace]
  group := Part.run isInLine
  tail := []

/-- The value of a marker on a line, if it has one. -/
def lineValue? (key line : List Char) : Option (List Char) :=
  ((markerPattern key).capture? line).bind Text.trimmed?

/-- The value of the first marker with a key that has a value. -/
def marker? (content key : String) : Option String :=
  ((windowLines content).findSome? (lineValue? key.toList)).map .ofList

/-! ## Metadata -/

/-- The version of a document that states none. -/
def defaultVersion : String := "1.0.0"

/-- The keys that an identifier may stand under; the first of them that has a value counts. -/
def identifierKeys : List String :=
  ["Specification Series", "Specification ID", "Specification", "Requirement"]

/-- The metadata of a document. -/
def metadata (content : String) : Metadata where
  title := (title? content).getD untitled
  status := ((marker? content "Status").map Status.normalize).getD .draft
  version := (marker? content "Version").getD defaultVersion
  lastUpdated := (marker? content "Last Updated").getD ""
  identifier := identifierKeys.findSome? (marker? content)

end Folio.Markdown
