import Folio.Document.Basic
import Folio.Json.Reader
import Folio.Metadata.Markdown
import Folio.Title

/-!
# Metadata of schemas

A schema is settled by nature. Its title is a member, and its version stands in its identifier.

Main definitions:

* `Schema.version?`: the first `/vX.Y.Z/` in an identifier.
* `Schema.metadata?`: the metadata of a schema, if the text is one.
-/

namespace Folio.Schema

/-! ## Versions -/

/-- A non-empty run of digits followed by a mark, and the text after the mark. -/
def digitsThen? (mark : Char) (cs : List Char) : Option (List Char × List Char) :=
  let digits := cs.takeWhile Unicode.isDecimal
  match digits.isEmpty, cs.dropWhile Unicode.isDecimal with
  | false, c :: rest => if c = mark then some (digits, rest) else none
  | _, _ => none

/-- The version that a text begins with, as in `/v1.2.3/`. -/
def versionAt? : List Char → Option (List Char)
  | '/' :: 'v' :: rest => do
    let (major, rest) ← digitsThen? '.' rest
    let (minor, rest) ← digitsThen? '.' rest
    let (patch, _) ← digitsThen? '/' rest
    some (major ++ '.' :: minor ++ '.' :: patch)
  | _ => none

/-- The version at the earliest place that holds one. -/
def findVersion? : List Char → Option (List Char)
  | [] => none
  | c :: rest => (versionAt? (c :: rest)).orElse fun _ => findVersion? rest

/-- The version in an identifier. -/
def version? (identifier : String) : Option String :=
  (findVersion? identifier.toList).map .ofList

/-! ## Metadata -/

/-- A member that is a string and not empty. -/
def textMember? (name : String) (value : Json) : Option String :=
  ((value.member? name).bind Json.text?).filter (· ≠ "")

/-- Whether the identifier of a value is something else than a string or null. -/
def hasMalformedId (value : Json) : Bool :=
  match value.member? "$id" with
  | none => false
  | some .null => false
  | some (.string _) => false
  | some _ => true

/-- The metadata of a value. -/
def ofJson (value : Json) (filename : String) : Metadata :=
  let identifier := (value.member? "$id").bind Json.text?
  { title := ((textMember? "title" value).orElse fun _ => textMember? "name" value).getD
      (Title.ofFilename filename)
    status := .standard
    version := (identifier.bind version?).getD Markdown.defaultVersion
    lastUpdated := ""
    identifier }

/-- The metadata of a schema, if the text is JSON other than null with a well-formed
identifier. -/
def metadata? (content filename : String) : Option Metadata :=
  match Json.parse? content.toList with
  | none => none
  | some .null => none
  | some value => if hasMalformedId value then none else some (ofJson value filename)

end Folio.Schema
