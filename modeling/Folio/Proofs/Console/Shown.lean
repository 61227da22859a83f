import Folio.Console.Reply
import Folio.Proofs.Catalog.Routes
import Folio.Proofs.Console.Run

/-!
# Documents shown by their routes

The route of a document, with its parts joined by separators, can be given back to show the
document. It is shown iff a file lies where the route leads whose extension is in lower case; the
extension of the listed file may be in any case.

Main results:

* `partsOf_joined`: the joined parts of a route are split into the same parts.
* `requireCategory_eq`: a category is required in vain iff it is not listed.
* `route_shown_iff`: every route is published, and what it shows.
-/

namespace Folio.Console

theorem splitOn_joined {parts : List String} (hne : parts ≠ [])
    (hparts : ∀ part ∈ parts, '/' ∉ part.toList) :
    (("/".intercalate parts).toList.splitOn '/').map String.ofList = parts := by
  have hsplit : ("/".intercalate parts).toList.splitOn '/' = parts.map String.toList := by
    rw [String.toList_intercalate]
    exact List.splitOn_intercalate '/' (by simpa using hparts) (by simpa using hne)
  rw [hsplit, List.map_map]
  simp

theorem partsOf_joined {d : Document} (hparts : ∀ part ∈ d.route.parts, '/' ∉ part.toList) :
    partsOf d.route.joined none = .ok (d.subcategory, d.slug) := by
  have hne : d.route.parts ≠ [] := by simp [Document.route]
  unfold partsOf
  rw [Route.joined, splitOn_joined hne hparts, d.split?_parts_route]
  cases d.subcategory <;> rfl

theorem requireCategory_eq {catalog : Catalog} {fs : FileSystem} {names : List String}
    (hnames : catalog.categories fs = .ok names) (category : String) :
    requireCategory catalog fs category =
      if category ∈ names then .ok ()
      else .error (.noCategory category (Text.closest? similarLimit category names)) := by
  rw [requireCategory, hnames]
  simp [Except.mapError, bind, Except.bind]

theorem requireCategory_eq_ok {catalog : Catalog} {fs : FileSystem} {names : List String}
    (hnames : catalog.categories fs = .ok names) {category : String}
    (hcategory : category ∈ names) : requireCategory catalog fs category = .ok () := by
  rw [requireCategory_eq hnames, if_pos hcategory]

/-- The status of the reply when the document of a route is asked for. -/
theorem status_answer_document {settings : Settings} {fs : FileSystem} {names : List String}
    (hnames : settings.catalog.categories fs = .ok names) {category : String}
    (hcategory : category ∈ names) {d : Document}
    (hparts : ∀ part ∈ d.route.parts, '/' ∉ part.toList) {r : Option Content}
    (hfind : settings.catalog.find fs category d.slug d.subcategory = .ok r)
    (presentation : Presentation) (raw : Bool) :
    (Reply.ofAnswer ((CatalogQuery.document category d.route.joined none raw).answer settings fs
      presentation)).status = if r.isSome then 0 else 4 := by
  rw [CatalogQuery.answer, CatalogQuery.run, requireCategory_eq_ok hnames hcategory, Run.lift_eq,
    Run.attempt_ok_bind, Run.lift_eq, Run.answer_attempt_bind, findShown, partsOf_joined hparts]
  cases r with
  | none => simp [hfind, Except.mapError, bind, Except.bind, Reply.ofAnswer, Failure.status]
  | some x =>
    simp [hfind, Except.mapError, bind, Except.bind, Reply.ofAnswer, Run.answer_write]

/-! ## Routes of documents -/

theorem isSafeName_slug {entries : Directory} (hwf : entries.WellFormed)
    (hback : entries.BackslashFree) {category : String} {file : File} {d : Document}
    (hfile : file.In entries) (hyields : file.Yields category d) (hhere : d.slug ≠ ".")
    (habove : d.slug ≠ "..") : isSafeName d.slug := by
  obtain ⟨dir, hdir, hfind⟩ := Option.bind_eq_some_iff.mp hfile
  have hseparator := ((hwf.below? hdir).isEntryName hfind).no_separator
  have hbackslash := hback _ _ _ hfile
  obtain ⟨ext, hname, hempty, -⟩ := hyields.name_eq
  rw [hname] at hseparator hbackslash
  simp only [String.toList_append, List.mem_append, not_or] at hseparator hbackslash
  exact isSafeName_iff.mpr ⟨⟨hempty, hhere, habove, hseparator.1.1⟩, hbackslash.1.1⟩

theorem separator_notMem_parts {entries : Directory} (hwf : entries.WellFormed)
    {category : String} {file : File} {d : Document} (hfile : file.In entries)
    (hyields : file.Yields category d) (hdepth : file.above.length ≤ 1)
    (hslug : isSafeName d.slug) : ∀ part ∈ d.route.parts, '/' ∉ part.toList := by
  intro part hpart
  change part ∈ d.subcategory.toList ++ [d.slug] at hpart
  rw [hyields.toList_subcategory hdepth] at hpart
  obtain ⟨dir, hdir, -⟩ := Option.bind_eq_some_iff.mp hfile
  rcases List.mem_append.mp hpart with hpart | hpart
  · exact (hwf.isEntryName_of_mem hdir part hpart).no_separator
  · rw [List.mem_singleton.mp hpart]
    exact (isSafeName_iff.mp hslug).1.no_separator

/-- Every document of a file at most one directory below its category has a published route. The
route shows a document iff a file of the slug, with an extension in lower case, lies where it
leads, as it does if the file itself has such an extension. -/
theorem route_shown_iff {settings : Settings} {fs : FileSystem} {tree : Directory}
    (htree : settings.catalog.HasTree fs tree) (hlink : tree.LinkFree)
    (hback : tree.BackslashFree) {routes : List Route}
    (hroutes : settings.catalog.routes fs = .ok routes) {names : List String}
    (hnames : settings.catalog.categories fs = .ok names) {category : String}
    (hcategory : category ∈ names) {entries : Directory}
    (hentries : tree.find? category = some (.directory entries)) {file : File} {d : Document}
    (hfile : file.In entries) (hyields : file.Yields category d) (hdepth : file.above.length ≤ 1)
    (hhere : d.slug ≠ ".") (habove : d.slug ≠ "..") (presentation : Presentation) (raw : Bool) :
    d.route ∈ routes ∧ ∃ r,
      settings.catalog.findRoute fs category d.route.parts = .ok r ∧
      (r.isSome ↔ Catalog.HasRoutedFile entries d.subcategory d.slug) ∧
      (Reply.ofAnswer ((CatalogQuery.document category d.route.joined none raw).answer settings fs
        presentation)).status = (if r.isSome then 0 else 4) ∧
      (file.name = d.slug ++ "." ++ d.format.ext → r.isSome) := by
  obtain ⟨L, hL, hpublished⟩ := Catalog.exists_documents_of_routes hroutes hnames hcategory
  have h := accessible_category htree hentries hlink (readableAt_of_documents htree hentries hL)
  have hbelow := hback.below hentries
  have hslug := isSafeName_slug h.wellFormed hbelow hfile hyields hhere habove
  obtain ⟨r, hr, hsome⟩ := Catalog.exists_find_eq_ok_isSome_iff h
    (isSafeName_of_find? htree.wellFormed hback hentries) hslug
    (fun name inner hname => isSafeName_of_find? h.wellFormed hbelow hname) d.subcategory
  have hparts := separator_notMem_parts h.wellFormed hfile hyields hdepth hslug
  refine ⟨hpublished d ((mem_documents_iff h.read h.wellFormed hL).mpr ⟨file, hfile, hyields⟩),
    r, ?_, hsome, status_answer_document hnames hcategory hparts hr presentation raw, ?_⟩
  · rw [Catalog.findRoute_route, hr]
  · intro hname
    rw [hsome]
    refine ⟨file.above, d.format, file.bytes, ?_, hdepth, ?_⟩
    · exact hyields.toList_subcategory hdepth ▸ List.prefix_rfl
    · rw [Catalog.fileName, ← hname]
      exact hfile

/-- A category with one document whose extension is in upper case. -/
def upperEntries : Directory := [("DID-METHOD.MD", .file [35, 32, 68])]

/-- A catalog of that category. -/
def upperTree : Directory := [("identity", .directory upperEntries)]

/-- Settings of that catalog. -/
def upperSettings : Settings where
  root := "specs"
  blogDir := "blog"
  excluded := Catalog.defaultExcluded
  baseUrl := none
  filter := .production

/-- The document of that category. -/
def upperDocument : Document where
  slug := "DID-METHOD"
  filename := "DID-METHOD.MD"
  category := "identity"
  subcategory := none
  format := .markdown
  metadata := (Extraction.ofFile (Catalog.textOf [35, 32, 68]) "DID-METHOD.MD").metadata

theorem not_hasRoutedFile_upperEntries :
    ¬ Catalog.HasRoutedFile upperEntries none "DID-METHOD" := by
  rintro ⟨above, format, bytes, -, -, hnode⟩
  cases above with
  | nil => cases format <;> cases hnode
  | cons name above =>
    obtain ⟨entries, hname, -⟩ := Directory.node?_cons_eq_some_iff.mp hnode
    have hmem := Directory.mem_of_find? hname
    simp [upperEntries] at hmem

theorem route_shown_iff_upperTree :
    upperSettings.catalog.HasTree (.holding "specs" upperTree) upperTree ∧ upperTree.LinkFree ∧
      upperTree.BackslashFree ∧ ∃ routes names,
        upperSettings.catalog.routes (.holding "specs" upperTree) = .ok routes ∧
        upperSettings.catalog.categories (.holding "specs" upperTree) = .ok names ∧
        "identity" ∈ names ∧
        File.Yields "identity" ⟨[], "DID-METHOD.MD", [35, 32, 68]⟩ upperDocument ∧
        upperDocument.route ∈ routes ∧
        upperSettings.catalog.findRoute (.holding "specs" upperTree) "identity"
          upperDocument.route.parts = .ok none ∧
        (Reply.ofAnswer ((CatalogQuery.document "identity" upperDocument.route.joined none
          false).answer upperSettings (.holding "specs" upperTree) .human)).status = 4 := by
  have hwf : upperTree.WellFormed := by decide
  have htree : upperSettings.catalog.HasTree (.holding "specs" upperTree) upperTree :=
    hasTree_holding (by decide) hwf
  have hlink := (Directory.linkFree_iff hwf).mpr (by decide)
  have hback : upperTree.BackslashFree := (Directory.forall_node?_iff hwf).mpr (by decide)
  have hread : Readable (.holding "specs" upperTree) "specs" upperTree :=
    readable_holding (by decide) hwf (by decide)
  obtain ⟨routes, hroutes⟩ := Catalog.exists_routes htree hread
  have hidentity := (htree.mem_categories_iff htree.categories_eq).mpr
    ⟨⟨upperEntries, rfl⟩, (by decide : "identity" ∉ upperSettings.catalog.excluded)⟩
  have hyields : File.Yields "identity" ⟨[], "DID-METHOD.MD", [35, 32, 68]⟩ upperDocument :=
    ⟨rfl, rfl, rfl, ⟨"MD", by decide, by decide, by decide, by decide⟩, rfl⟩
  have hfile : File.In upperEntries ⟨[], "DID-METHOD.MD", [35, 32, 68]⟩ := rfl
  obtain ⟨hroute, r, hfind, hsome, hstatus, -⟩ :=
    route_shown_iff htree hlink hback hroutes htree.categories_eq hidentity rfl hfile hyields
      (by decide) (by decide) (by decide) .human false
  have hnone : r = none := by
    rw [← Option.not_isSome_iff_eq_none, hsome]
    exact not_hasRoutedFile_upperEntries
  subst hnone
  exact ⟨htree, hlink, hback, routes, _, hroutes, htree.categories_eq, hidentity, hyields, hroute,
    hfind, hstatus⟩

end Folio.Console
