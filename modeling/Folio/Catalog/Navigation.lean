import Folio.Catalog.Basic
import Folio.Title

/-!
# Navigation

The navigation has a section for each category and in it a link to each document. Categories may
be scanned in any order; the sections are sorted by title.

Main definitions:

* `Section`, `Section.Item`: the links of a category.
* `Catalog.navigation`: the sections of all categories.
* `Catalog.section?`: the section of one category, if it has any documents.
-/

namespace Folio

/-- A link to a document. -/
structure Section.Item where
  title : String
  href : String
  status : Status
  deriving DecidableEq, Repr, Inhabited

/-- The links to the documents of a category. -/
structure Section where
  /-- The name of the category, capitalized. -/
  title : String
  category : String
  items : List Section.Item
  deriving DecidableEq, Repr, Inhabited

/-- The link to a document. -/
def Section.Item.ofDocument (d : Document) : Section.Item :=
  ⟨d.metadata.title, d.href, d.metadata.status⟩

/-- The section of a category with its documents. -/
def Section.ofDocuments (category : String) (documents : List Document) : Section :=
  ⟨Title.ofCategory category, category, documents.map .ofDocument⟩

/-- Sections by title. Sections of one title stay in the order in which they come. -/
def Section.sort (sections : List Section) : List Section :=
  sections.mergeSort fun a b => a.title ≤ b.title

namespace Catalog

/-- The sections of categories whose scans end in the given order. -/
def navigationAfter (catalog : Catalog) (fs : FileSystem) (order : List String) :
    Except FileError (List Section) := do
  .ok (Section.sort ((← catalog.scan fs order).map fun (category, documents) =>
    Section.ofDocuments category documents))

/-- The sections of all categories. -/
def navigation (catalog : Catalog) (fs : FileSystem) : Except FileError (List Section) := do
  catalog.navigationAfter fs (← catalog.categories fs)

/-- The section of one category, if it has any documents. -/
def section? (catalog : Catalog) (fs : FileSystem) (category : String) :
    Except FileError (Option Section) := do
  let documents ← catalog.documents fs category
  .ok (if documents.isEmpty then none else some (Section.ofDocuments category documents))

end Catalog

/-! ## Records -/

/-- A link as a record. -/
def Section.Item.toJson (item : Section.Item) : Json :=
  .object [("title", .string item.title), ("href", .string item.href),
    ("status", .string item.status.label)]

/-- A section as a record. -/
def Section.toJson (s : Section) : Json :=
  .object [("title", .string s.title), ("category", .string s.category),
    ("items", .array (s.items.map Section.Item.toJson))]

end Folio
