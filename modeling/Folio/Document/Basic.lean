import Folio.Document.Format
import Folio.Document.Status
import Folio.Json.Basic

/-!
# Documents

Main definitions:

* `Metadata`: what is known of a document from its text.
* `Document`: a file of the catalog with its place and its metadata.
* `Content`: the text of a document with its format and metadata.
* `Document.compare`: the order of listings, by title without regard to case, title,
  subcategory, slug and file name.
-/

namespace Folio

/-- What is known of a document from its text. -/
structure Metadata where
  title : String
  status : Status
  version : String
  /-- A date as written; empty if there is none. -/
  lastUpdated : String
  identifier : Option String
  deriving DecidableEq, Repr, Inhabited

/-- A file of the catalog. -/
structure Document where
  /-- The file name up to its last dot. -/
  slug : String
  filename : String
  category : String
  /-- The first directory below the category on the way to the file. -/
  subcategory : Option String
  format : Format
  metadata : Metadata
  deriving DecidableEq, Repr, Inhabited

/-- The text of a document with its format and metadata. -/
structure Content where
  format : Format
  text : String
  metadata : Metadata
  deriving DecidableEq, Repr, Inhabited

/-- A file name up to its last dot. -/
def slugOf (filename : String) : String :=
  match Text.cutLast '.' filename.toList with
  | some (stem, _) => .ofList stem
  | none => filename

/-- The document that a file of a category stands for. -/
def Document.ofFile (category : String) (subcategory : Option String) (filename : String)
    (format : Format) (metadata : Metadata) : Document :=
  { slug := slugOf filename, filename, category, subcategory, format, metadata }

/-! ## Order -/

/-- The title in lower case. -/
def Document.titleKey (d : Document) : List Char := Unicode.lowercase d.metadata.title.toList

/-- The order of listings. Documents compare equal only if they agree in all keys. -/
def Document.compare : Document → Document → Ordering :=
  compareLex (compareOn Document.titleKey) <|
  compareLex (compareOn (·.metadata.title)) <|
  compareLex (compareOn Document.subcategory) <|
  compareLex (compareOn Document.slug) (compareOn Document.filename)

/-- Documents in the order of listings. -/
def Document.sort (documents : List Document) : List Document :=
  documents.mergeSort fun a b => (a.compare b).isLE

/-! ## Records -/

/-- The members of metadata in the order in which they are reported. -/
def Metadata.members (m : Metadata) : List (String × Json) :=
  [("title", .string m.title), ("status", .string m.status.label),
    ("version", .string m.version), ("lastUpdated", .string m.lastUpdated)]
    ++ Json.optional "specId" m.identifier

/-- Metadata as a record. -/
def Metadata.toJson (m : Metadata) : Json := .object m.members

/-- A document as a flat record. -/
def Document.toJson (d : Document) : Json :=
  .object <|
    [("slug", .string d.slug), ("filename", .string d.filename), ("category", .string d.category)]
    ++ Json.optional "subcategory" d.subcategory
    ++ ("type", .string d.format.name) :: d.metadata.members

/-- A text with its metadata as a record. -/
def Content.toJson (c : Content) : Json :=
  .object [("type", .string c.format.name), ("content", .string c.text),
    ("metadata", c.metadata.toJson)]

end Folio
