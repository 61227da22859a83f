import Folio.Proofs.Catalog.Consistency
import Folio.Proofs.Console.Shown
import Folio.Proofs.Text.Lines

/-!
# Links and parts

A document is named in two ways: by its link and by the parts of its route. Each is read back, the
parts as they are or joined by separators, as long as there are no separators inside the names.
Names may be empty.

Main definitions:

* `Document.SeparatorFree`: a document without separators in its names.
* `linkLines`: the links of documents as they are printed.

Main results:

* `Route.split?_eq_some_iff`: what parts stand for.
* `Route.eq_of_href_eq`: routes of one link are the same.
* `answer_routes`: what is printed for the routes of a catalog.
* `links_invert`: how links and parts lead back to a document.
-/

namespace Folio

/-! ## Parts -/

/-- Parts stand for a subcategory and a slug just if they are the one, where there is one, and the
other. -/
theorem Route.split?_eq_some_iff {parts : List String} {subcategory : Option String}
    {slug : String} :
    split? parts = some (subcategory, slug) ↔ parts = subcategory.toList ++ [slug] := by
  constructor
  · intro h
    unfold split? at h
    split at h
    · cases h
      rfl
    · cases h
      rfl
    · cases h
  · rintro rfl
    cases subcategory <;> rfl

theorem Route.isSome_split?_iff {parts : List String} :
    (split? parts).isSome ↔ parts.length = 1 ∨ parts.length = 2 := by
  constructor
  · intro h
    obtain ⟨⟨subcategory, slug⟩, hsplit⟩ := Option.isSome_iff_exists.mp h
    rw [split?_eq_some_iff.mp hsplit]
    cases subcategory <;> simp
  · rintro (h | h)
    · obtain ⟨slug, rfl⟩ := List.length_eq_one_iff.mp h
      rfl
    · obtain ⟨subcategory, slug, rfl⟩ := List.length_eq_two.mp h
      rfl

/-! ## Links -/

/-- Without separators in the category and the parts, the link of a route tells the route. -/
theorem Route.eq_of_href_eq {r r' : Route} (hcategory : '/' ∉ r.category.toList)
    (hcategory' : '/' ∉ r'.category.toList) (hne : r.parts ≠ []) (hne' : r'.parts ≠ [])
    (hparts : ∀ part ∈ r.parts, '/' ∉ part.toList)
    (hparts' : ∀ part ∈ r'.parts, '/' ∉ part.toList) (h : r.href = r'.href) : r = r' := by
  have hbelow : r.category.toList ++ '/' :: r.joined.toList =
      r'.category.toList ++ '/' :: r'.joined.toList := by
    simpa [href, ← String.toList_inj] using h
  -- The category ends at the first separator.
  have hcut := congrArg (Text.cutFirst '/') hbelow
  rw [Text.cutFirst_append hcategory, Text.cutFirst_append hcategory', Option.some_inj,
    Prod.mk.injEq] at hcut
  obtain ⟨hsame, hjoined⟩ := hcut
  have hsplit := congrArg (fun cs => (List.splitOn '/' cs).map String.ofList) hjoined
  rw [joined, joined, Console.splitOn_joined hne hparts, Console.splitOn_joined hne' hparts']
    at hsplit
  cases r
  cases r'
  rw [Route.mk.injEq]
  exact ⟨String.toList_inj.mp hsame, hsplit⟩

/-- A document without separators in its names. -/
structure Document.SeparatorFree (d : Document) : Prop where
  category : '/' ∉ d.category.toList
  subcategory : ∀ name, d.subcategory = some name → '/' ∉ name.toList
  slug : '/' ∉ d.slug.toList

theorem Document.SeparatorFree.parts {d : Document} (h : d.SeparatorFree) :
    ∀ part ∈ d.route.parts, '/' ∉ part.toList := by
  intro part hpart
  rcases List.mem_append.mp hpart with hpart | hpart
  · exact h.subcategory part (Option.mem_toList.mp hpart)
  · rw [List.mem_singleton.mp hpart]
    exact h.slug

theorem Document.SeparatorFree.route_eq_of_href_eq {d d' : Document} (h : d.SeparatorFree)
    (h' : d'.SeparatorFree) (hhref : d.href = d'.href) : d.route = d'.route := by
  rw [← d.href_route, ← d'.href_route] at hhref
  exact Route.eq_of_href_eq h.category h'.category (by simp [route]) (by simp [route])
    h.parts h'.parts hhref

namespace Console

/-- The links of scanned documents with the base of links before them, each on its line. -/
def linkLines (settings : Settings) (scans : List (String × List Document)) : String :=
  Text.unlines (scans.flatMap fun (_, documents) => documents.map fun d => settings.link d.href)

/-- What is printed for the routes of a catalog are the links of all documents. -/
theorem answer_routes (settings : Settings) (fs : FileSystem) :
    CatalogQuery.routes.answer settings fs .human = (do
      let names ← settings.catalog.categories fs
      let scans ← settings.catalog.scan fs names
      .ok (linkLines settings scans)).mapError Failure.file := by
  rw [CatalogQuery.answer, CatalogQuery.run, Run.lift_eq, Run.answer_attempt_bind, Catalog.routes]
  cases settings.catalog.categories fs with
  | error e => rfl
  | ok names =>
    cases hscans : settings.catalog.scan fs names with
    | error e => simp [hscans, bind, Except.bind, Except.mapError]
    | ok scans =>
      simp [hscans, bind, Except.bind, Except.mapError, Run.answer_write, routesText, linkLines,
        List.map_flatMap, Document.href_route, Function.comp_def]

/-! ## Main result -/

/-- The link of a document is that of its category and of the joined parts of its route. The parts
are read back, as they are or split at the separators of the joined text; the printed link leads
back as well, since no other document without separators in its names has it. Parts can be read just
if there are one or two of them, and then they are those of a document that they stand for. -/
theorem links_invert {d : Document} (hd : d.SeparatorFree) :
    Route.split? d.route.parts = some (d.subcategory, d.slug) ∧
      d.href = "/specifications/" ++ d.category ++ "/" ++ "/".intercalate d.route.parts ∧
      (∀ settings fs, CatalogQuery.routes.answer settings fs .human = (do
        let names ← settings.catalog.categories fs
        let scans ← settings.catalog.scan fs names
        .ok (linkLines settings scans)).mapError Failure.file) ∧
      partsOf ("/".intercalate d.route.parts) none = .ok (d.subcategory, d.slug) ∧
      (∀ d' : Document, d'.SeparatorFree → d.href = d'.href →
        d.category = d'.category ∧ d.subcategory = d'.subcategory ∧ d.slug = d'.slug) ∧
      (∀ parts, (Route.split? parts).isSome ↔ parts.length = 1 ∨ parts.length = 2) ∧
      ∀ (parts : List String) (d' : Document),
        Route.split? parts = some (d'.subcategory, d'.slug) ↔ d'.route.parts = parts := by
  refine ⟨d.split?_parts_route, ?_, answer_routes, partsOf_joined hd.parts, ?_,
    fun parts => Route.isSome_split?_iff, fun parts d' => ?_⟩
  · rw [← d.href_route]
    rfl
  · intro d' hd' hhref
    have hroute := hd.route_eq_of_href_eq hd' hhref
    have hsplit := d.split?_parts_route
    rw [hroute, d'.split?_parts_route, Option.some_inj, Prod.mk.injEq] at hsplit
    exact ⟨congrArg Route.category hroute, hsplit.1.symm, hsplit.2.symm⟩
  · rw [Route.split?_eq_some_iff]
    exact eq_comm

/-- A document whose subcategory and slug are empty, which differs from the one without the
subcategory. -/
def namelessDocument : Document where
  slug := ""
  filename := ".md"
  category := "identity"
  subcategory := some ""
  format := .markdown
  metadata := .ofFilename ".md"

theorem links_invert_nameless :
    namelessDocument.SeparatorFree ∧
      namelessDocument.href = "/specifications/identity//" ∧
      partsOf "/" none = .ok (some "", "") ∧
      namelessDocument.href ≠ { namelessDocument with subcategory := none }.href := by
  have hfree : namelessDocument.SeparatorFree := by
    refine ⟨by decide, fun name hname => ?_, by decide⟩
    cases hname
    decide
  have hother : { namelessDocument with subcategory := none }.SeparatorFree :=
    ⟨by decide, by simp, by decide⟩
  obtain ⟨-, hhref, -, hparts, hinj, -, -⟩ := links_invert hfree
  refine ⟨hfree, hhref, hparts, fun hsame => ?_⟩
  obtain ⟨-, hsubcategory, -⟩ := hinj _ hother hsame
  cases hsubcategory

end Console

end Folio
