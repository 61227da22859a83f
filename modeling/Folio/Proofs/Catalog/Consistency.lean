import Folio.Proofs.Catalog.Navigation

/-!
# Queries that agree

The navigation, the routes and the total are derived from the same documents in different ways: by
section or in one list, as links or as parts, in any order of scans or by name. They agree with one
another.

Main results:

* `Document.href_route`: the link of a document is the link of its route.
* `Catalog.HasTree.hrefs_perm`, `Catalog.HasTree.length_routes`: the links and the number of routes
  are those of the sections.
* `queries_agree`: what the queries of a catalog have in common.
-/

namespace Folio

theorem Document.href_route (d : Document) : d.route.href = d.href := by
  rw [Route.href, Route.joined, Document.route, Document.href]
  cases d.subcategory <;> simp [String.append_assoc]

theorem Section.hrefs_ofCategory (tree : Directory) (category : String) :
    (Section.ofCategory tree category).items.map Section.Item.href =
      ((listingOf category (tree.entriesOf category)).map Document.route).map Route.href := by
  rw [Section.ofCategory, Section.ofDocuments, List.map_map, List.map_map]
  exact List.map_congr_left fun d _ => d.href_route.symm

theorem Section.length_ofCategory (tree : Directory) (category : String) :
    (Section.ofCategory tree category).items.length =
      (listingOf category (tree.entriesOf category)).length := by
  rw [Section.ofCategory, Section.ofDocuments, List.length_map]

namespace Catalog.HasTree

variable {catalog : Catalog} {fs : FileSystem} {tree : Directory} (htree : catalog.HasTree fs tree)
  (hread : Readable fs catalog.root tree) {names : List String}
  (hnames : catalog.categories fs = .ok names)
include htree hread hnames

theorem section?_eq {category : String} (hcategory : category ∈ names) :
    catalog.section? fs category =
      .ok (if (Section.ofCategory tree category).items.isEmpty then none
        else some (Section.ofCategory tree category)) := by
  obtain ⟨⟨entries, hentries⟩, -⟩ := (htree.mem_categories_iff hnames).mp hcategory
  rw [section?, htree.documents_eq hread hentries, Section.ofCategory, Section.ofDocuments,
    List.isEmpty_map, Directory.entriesOf_eq hentries]
  rfl

variable {routes : List Route} (hroutes : catalog.routes fs = .ok routes)
include hroutes

theorem hrefs_perm {sections : List Section}
    (hsections : sections.Perm (names.map (Section.ofCategory tree))) :
    (sections.flatMap fun s => s.items.map Section.Item.href).Perm (routes.map Route.href) := by
  rw [htree.routes_eq hread hnames, Except.ok.injEq] at hroutes
  subst hroutes
  refine (hsections.flatMap_right _).trans (.of_eq ?_)
  rw [List.flatMap_map, List.map_flatMap]
  exact List.flatMap_congr fun category _ => Section.hrefs_ofCategory tree category

theorem length_routes {order : List String} (horder : order.Perm names) :
    (order.map fun category =>
      (listingOf category (tree.entriesOf category)).length).foldl (· + ·) 0 = routes.length := by
  rw [htree.routes_eq hread hnames, Except.ok.injEq] at hroutes
  subst hroutes
  rw [← List.sum_eq_foldl, (horder.map _).sum_nat, List.length_flatMap]
  simp only [List.length_map]

end Catalog.HasTree

/-- If all can be read, the queries of a catalog agree, in whichever orders their scans end. The
navigation has a section for each category and no other, with a link for each document in the order
of the listing. The links of all sections are those of the routes, and their number is that of the
routes and the total. The section of a category by itself is the one in the navigation, unless that
has no links. -/
theorem queries_agree {catalog : Catalog} {fs : FileSystem} {tree : Directory}
    (htree : catalog.HasTree fs tree) (hread : Readable fs catalog.root tree) :
    ∃ names routes, catalog.categories fs = .ok names ∧ names.Nodup ∧
      catalog.routes fs = .ok routes ∧
      (∀ order, order.Perm names → catalog.totalAfter fs order = .ok routes.length) ∧
      ∀ order, order.Perm names → ∃ sections, catalog.navigationAfter fs order = .ok sections ∧
        (sections.flatMap fun s => s.items.map Section.Item.href).Perm (routes.map Route.href) ∧
        (sections.map Section.category).Perm names ∧
        (∀ s ∈ sections, ∃ L, catalog.documents fs s.category = .ok L ∧
          s = Section.ofDocuments s.category L) ∧
        (sections.map fun s => s.items.length).foldl (· + ·) 0 = routes.length ∧
        ∀ category ∈ names, ∃ s ∈ sections, s.category = category ∧
          catalog.section? fs category = .ok (if s.items.isEmpty then none else some s) := by
  obtain ⟨names, hnames⟩ : ∃ names, catalog.categories fs = .ok names := ⟨_, htree.categories_eq⟩
  have hroutes := htree.routes_eq hread hnames
  refine ⟨names, _, hnames, (htree.pairwise_categories hnames).imp (fun h => h.ne), hroutes, ?_, ?_⟩
  · intro order horder
    rw [htree.totalAfter_eq hread hnames horder.subset,
      htree.length_routes hread hnames hroutes horder]
  intro order horder
  have hsorted := Section.sort_perm (order.map (Section.ofCategory tree))
  have hsections := hsorted.trans (horder.map (Section.ofCategory tree))
  have hmem {s : Section} : s ∈ Section.sort (order.map (Section.ofCategory tree)) ↔
      ∃ category ∈ names, Section.ofCategory tree category = s := by
    rw [hsections.mem_iff, List.mem_map]
  refine ⟨_, htree.navigationAfter_eq hread hnames horder.subset,
    htree.hrefs_perm hread hnames hroutes hsections, ?_, ?_, ?_, ?_⟩
  · have hcategories := hsections.map Section.category
    rw [List.map_map] at hcategories
    exact hcategories.trans (.of_eq (List.map_id names))
  · intro s hs
    obtain ⟨category, hcategory, rfl⟩ := hmem.mp hs
    obtain ⟨⟨entries, hentries⟩, -⟩ := (htree.mem_categories_iff hnames).mp hcategory
    refine ⟨_, htree.documents_eq hread hentries, ?_⟩
    rw [Section.category_ofCategory, Section.ofCategory, Directory.entriesOf_eq hentries]
  · have hlengths := (hsorted.map fun s => s.items.length).sum_nat
    rw [List.sum_eq_foldl, List.sum_eq_foldl, List.map_map] at hlengths
    rw [hlengths, ← htree.length_routes hread hnames hroutes horder]
    congr 1
    exact List.map_congr_left fun category _ => Section.length_ofCategory tree category
  · intro category hcategory
    exact ⟨_, hmem.mpr ⟨category, hcategory, rfl⟩, rfl, htree.section?_eq hread hnames hcategory⟩

theorem queries_agree_nestedTree :
    (Catalog.ofRoot "specs").HasTree (.holding "specs" nestedTree) nestedTree ∧
      Readable (.holding "specs" nestedTree) "specs" nestedTree ∧
      ∃ names routes sections,
        (Catalog.ofRoot "specs").categories (.holding "specs" nestedTree) = .ok names ∧
        (Catalog.ofRoot "specs").routes (.holding "specs" nestedTree) = .ok routes ∧
        (Catalog.ofRoot "specs").totalAfter (.holding "specs" nestedTree) names =
          .ok routes.length ∧
        (Catalog.ofRoot "specs").navigationAfter (.holding "specs" nestedTree) names =
          .ok sections ∧
        (sections.flatMap fun s => s.items.map Section.Item.href).Perm
          (routes.map Route.href) := by
  have hroot : IsEntryName "specs" := by decide
  have hwf : nestedTree.WellFormed := by decide
  have htree := hasTree_holding hroot hwf
  have hread := readable_holding hroot hwf (by decide)
  obtain ⟨names, routes, hnames, -, hroutes, htotal, hnavigation⟩ := queries_agree htree hread
  obtain ⟨sections, hsections, hrefs, -⟩ := hnavigation names (.refl names)
  exact ⟨htree, hread, names, routes, sections, hnames, hroutes, htotal names (.refl names),
    hsections, hrefs⟩

end Folio
