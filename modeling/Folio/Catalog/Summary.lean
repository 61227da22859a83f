import Folio.Catalog.Navigation

/-!
# Summaries

Main definitions:

* `Summary`: a category with the number of its documents.
* `Catalog.summaries`: the summaries of all categories, by name.
-/

namespace Folio

/-- A category with the number of its documents. -/
structure Summary where
  category : String
  /-- The name of the category, capitalized. -/
  title : String
  count : Nat
  deriving DecidableEq, Repr, Inhabited

/-- The summary of a section of the navigation. -/
def Summary.ofSection (s : Section) : Summary := ⟨s.category, s.title, s.items.length⟩

/-- Sections by the names of their categories. -/
def Section.sortByCategory (sections : List Section) : List Section :=
  sections.mergeSort fun a b => a.category ≤ b.category

/-- The summaries of sections, by the names of their categories. -/
def Summary.ofSections (sections : List Section) : List Summary :=
  (Section.sortByCategory sections).map .ofSection

/-- The number of documents of all categories together. -/
def Summary.total (summaries : List Summary) : Nat :=
  (summaries.map Summary.count).foldl (· + ·) 0

namespace Catalog

/-- The summaries of categories whose scans end in the given order. -/
def summariesAfter (catalog : Catalog) (fs : FileSystem) (order : List String) :
    Except FileError (List Summary) :=
  (catalog.navigationAfter fs order).map Summary.ofSections

/-- The summaries of all categories. -/
def summaries (catalog : Catalog) (fs : FileSystem) : Except FileError (List Summary) := do
  catalog.summariesAfter fs (← catalog.categories fs)

end Catalog

/-- A summary as a record. -/
def Summary.toJson (s : Summary) : Json :=
  .object [("category", .string s.category), ("title", .string s.title), ("count", .ofNat s.count)]

end Folio
