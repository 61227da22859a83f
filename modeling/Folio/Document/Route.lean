import Folio.Document.Basic

/-!
# Routes

A document is shown under its category, its subcategory if it has one, and its slug.

Main definitions:

* `Route`: a category with the one or two parts that lead to a document in it.
* `Document.route`, `Document.href`: the route of a document, as parts and as a link.
* `Route.split?`: a subcategory and a slug read from the parts of a route.
-/

namespace Folio

/-- What the links of all documents begin with. -/
def hrefBase : String := "/specifications"

/-- The way to a document: the parts below its category are the subcategory, if there is one, and
the slug. -/
structure Route where
  category : String
  parts : List String
  deriving DecidableEq, Repr, Inhabited

/-- The route of a document. -/
def Document.route (d : Document) : Route :=
  ⟨d.category, d.subcategory.toList ++ [d.slug]⟩

/-- The link of a document. -/
def Document.href (d : Document) : String :=
  match d.subcategory with
  | some subcategory => hrefBase ++ "/" ++ d.category ++ "/" ++ subcategory ++ "/" ++ d.slug
  | none => hrefBase ++ "/" ++ d.category ++ "/" ++ d.slug

/-- The parts of a route as one text. -/
def Route.joined (r : Route) : String := "/".intercalate r.parts

/-- The link of a route. -/
def Route.href (r : Route) : String := hrefBase ++ "/" ++ r.category ++ "/" ++ r.joined

/-- The subcategory, if there is one, and the slug that parts stand for. Only one or two parts
stand for any. -/
def Route.split? : List String → Option (Option String × String)
  | [slug] => some (none, slug)
  | [subcategory, slug] => some (some subcategory, slug)
  | _ => none

/-- A route as a record. -/
def Route.toJson (r : Route) : Json :=
  .object [("category", .string r.category), ("slug", .strings r.parts)]

end Folio
