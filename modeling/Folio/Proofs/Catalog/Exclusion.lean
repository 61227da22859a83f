import Folio.Catalog.Summary
import Folio.Proofs.Catalog.Locality

/-!
# Excluded categories

The catalog never reads what is in the directories of excluded categories. On two disks whose
catalogs differ nowhere else, it gives the same categories, documents and routes, and the same
errors.

Main definitions:

* `Directory.SameOutside`: the same entries up to what is in the directories of some names.
* `Catalog.AgreeOutside`: two disks whose catalogs are the same outside of excluded categories.

Main results:

* `Catalog.documentsIn_congr`: the walk through a directory depends on its tree alone.
* `Catalog.documents_congr`: so do the documents of a category.
* `Catalog.AgreeOutside.scan_eq`: scans of listed categories do not see excluded ones; what is made
  of the scans follows.
-/

namespace Folio

namespace Directory

/-- The same entries in the same order of enumeration, up to what is in the directories of some
names. -/
def SameOutside (names : List String) (dir dir' : Directory) : Prop :=
  List.Forall₂ (fun entry entry' => entry.1 = entry'.1 ∧
    (entry.2 = entry'.2 ∨ entry.1 ∈ names ∧ entry.2.isDirectory ∧ entry'.2.isDirectory)) dir dir'

namespace SameOutside

variable {names : List String} {dir dir' : Directory} (h : dir.SameOutside names dir')
include h

theorem directories_eq : dir.directories = dir'.directories := by
  induction h with
  | nil => rfl
  | @cons entry entry' rest rest' hentry _ ih =>
    obtain ⟨hname, hnode⟩ := hentry
    have hkind : entry.2.isDirectory = entry'.2.isDirectory := by
      rcases hnode with hnode | ⟨-, hdir, hdir'⟩
      · rw [hnode]
      · rw [hdir, hdir']
    rw [directories, directories] at ih ⊢
    rw [List.filter_cons, List.filter_cons, hkind]
    split <;> simp [ih, hname]

theorem find?_eq {name : String} (hname : name ∉ names) : dir.find? name = dir'.find? name := by
  induction h with
  | nil => rfl
  | @cons entry entry' rest rest' hentry _ ih =>
    obtain ⟨p, node⟩ := entry
    obtain ⟨p', node'⟩ := entry'
    obtain ⟨rfl, hnode⟩ := hentry
    rw [find?, find?, List.lookup_cons, List.lookup_cons]
    cases hp : name == p with
    | false => exact ih
    | true =>
      obtain rfl := beq_iff_eq.mp hp
      rcases hnode with rfl | ⟨hmem, -⟩
      · rfl
      · exact absurd hmem hname

end SameOutside

end Directory

namespace Catalog

/-! ## One directory -/

section Walk

variable {fs fs' : FileSystem} {category : String}

theorem documentsIn_congr_of_entries {subcategory : Option String} {path : String}
    {dir : Directory}
    (hentries : ∀ entry ∈ dir,
      documentsAt fs category subcategory (Path.join path entry.1) entry.1 entry.2 =
        documentsAt fs' category subcategory (Path.join path entry.1) entry.1 entry.2) :
    documentsIn fs category subcategory path dir =
      documentsIn fs' category subcategory path dir := by
  induction dir with
  | nil => rw [documentsIn, documentsIn]
  | cons entry rest ih =>
    rw [documentsIn, documentsIn, hentries entry List.mem_cons_self,
      ih fun other hother => hentries other (List.mem_cons_of_mem entry hother)]

/-- The walk through a directory gives the same on disks that have the same tree there. -/
theorem documentsIn_congr {dir : Directory} (hwf : dir.WellFormed) {path : String}
    (hdir : fs.readDirectory path = .ok dir) (hdir' : fs'.readDirectory path = .ok dir)
    (subcategory : Option String) :
    documentsIn fs category subcategory path dir =
      documentsIn fs' category subcategory path dir := by
  induction hwf generalizing path subcategory with
  | @intro dir distinct named below ih =>
    have hwf := Directory.WellFormed.intro distinct named below
    refine documentsIn_congr_of_entries fun entry hmem => ?_
    obtain ⟨name, node⟩ := entry
    have hfind := hwf.find?_eq_some_iff.mpr hmem
    have hname := (hwf.isEntryName hfind).toIsPlainName
    have hlocate (hlink : ∀ target, node ≠ .link target) :=
      FileSystem.locate_join_congr hdir hdir' hname (by simpa [hfind] using hlink) rfl
    cases node with
    | file bytes =>
      rw [documentsAt, documentsAt, FileSystem.readFile_congr (hlocate (by simp))]
    | link target => rw [documentsAt, documentsAt]
    | directory entries =>
      rw [documentsAt, documentsAt]
      rcases FileSystem.readDirectory_congr (hlocate (by simp)) with
        ⟨e, he, he'⟩ | ⟨read, read', hread, hread'⟩
      · rw [he, he']
        rfl
      · obtain ⟨-, rfl⟩ := (FileSystem.readDirectory_entry_iff hdir hwf hfind).mp hread
        obtain ⟨-, rfl⟩ := (FileSystem.readDirectory_entry_iff hdir' hwf hfind).mp hread'
        rw [hread, hread']
        exact ih name _ hmem hread hread' _

end Walk

/-! ## One category -/

theorem documents_congr {catalog : Catalog} {fs fs' : FileSystem} {tree tree' : Directory}
    (htree : catalog.HasTree fs tree) (htree' : catalog.HasTree fs' tree') {category : String}
    (hname : IsPlainName category) (hlink : ∀ target, tree.find? category ≠ some (.link target))
    (h : tree.find? category = tree'.find? category) :
    catalog.documents fs category = catalog.documents fs' category := by
  rw [documents, documents]
  rcases FileSystem.readDirectory_congr (FileSystem.locate_join_congr htree.read htree'.read hname
    hlink (congrArg _ h)) with ⟨e, he, he'⟩ | ⟨dir, dir', hdir, hdir'⟩
  · rw [he, he']
    rfl
  · have hentry := ((FileSystem.readDirectory_join_eq_ok_iff htree.read htree.wellFormed hname
      hlink).mp hdir).2
    have hentry' := ((FileSystem.readDirectory_join_eq_ok_iff htree'.read htree'.wellFormed hname
      (h ▸ hlink)).mp hdir').2
    rw [h, hentry', Option.some.injEq, Node.directory.injEq] at hentry
    subst hentry
    have hwf := htree'.wellFormed.of_find? hentry'
    rw [hdir, hdir']
    simp only [bind, Except.bind, documentsIn_congr hwf hdir hdir' none]

end Catalog

/-! ## All categories -/

/-- Two disks whose catalogs have no links and differ only in what is in the directories of excluded
categories. -/
structure Catalog.AgreeOutside (catalog : Catalog) (fs fs' : FileSystem) (tree tree' : Directory) :
    Prop where
  left : catalog.HasTree fs tree
  right : catalog.HasTree fs' tree'
  leftLinkFree : tree.LinkFree
  rightLinkFree : tree'.LinkFree
  same : tree.SameOutside catalog.excluded tree'

namespace Catalog.AgreeOutside

variable {catalog : Catalog} {fs fs' : FileSystem} {tree tree' : Directory}
  (h : catalog.AgreeOutside fs fs' tree tree')
include h

theorem categories_eq : catalog.categories fs = catalog.categories fs' := by
  rw [h.left.categories_eq, h.right.categories_eq, h.same.directories_eq]

variable {names : List String} (hnames : catalog.categories fs = .ok names)
include hnames

theorem find?_eq {category : String} (hcategory : category ∈ names) :
    tree.find? category = tree'.find? category :=
  h.same.find?_eq ((h.left.mem_categories_iff hnames).mp hcategory).2

theorem documents_eq {category : String} (hcategory : category ∈ names) :
    catalog.documents fs category = catalog.documents fs' category := by
  obtain ⟨⟨entries, hentries⟩, -⟩ := (h.left.mem_categories_iff hnames).mp hcategory
  have hname := (h.left.wellFormed.isEntryName hentries).toIsPlainName
  exact documents_congr h.left h.right hname (h.leftLinkFree.find?_ne category)
    (h.find?_eq hnames hcategory)

/-- Scans of categories that are listed do not see what is in those that are not. -/
theorem scan_eq {order : List String} (horder : order ⊆ names) :
    catalog.scan fs order = catalog.scan fs' order := by
  refine mapM_congr fun category hcategory => ?_
  rw [h.documents_eq hnames (horder hcategory)]

theorem routes_eq : catalog.routes fs = catalog.routes fs' := by
  have hscan := h.scan_eq hnames (List.Subset.refl names)
  rw [routes, routes, ← h.categories_eq, hnames]
  simp only [bind, Except.bind, hscan]

theorem section?_eq {category : String} (hcategory : category ∈ names) :
    catalog.section? fs category = catalog.section? fs' category := by
  rw [section?, section?, h.documents_eq hnames hcategory]

theorem find_eq {category : String} (hcategory : category ∈ names) (slug : String)
    (subcategory : Option String) :
    catalog.find fs category slug subcategory = catalog.find fs' category slug subcategory :=
  find_congr h.left h.leftLinkFree h.right h.rightLinkFree
    (.of_find?_eq (h.find?_eq hnames hcategory)) slug subcategory

variable {order : List String} (horder : order ⊆ names)
include horder

theorem navigationAfter_eq :
    catalog.navigationAfter fs order = catalog.navigationAfter fs' order := by
  rw [navigationAfter, navigationAfter, h.scan_eq hnames horder]

theorem summariesAfter_eq :
    catalog.summariesAfter fs order = catalog.summariesAfter fs' order := by
  rw [summariesAfter, summariesAfter, h.navigationAfter_eq hnames horder]

theorem totalAfter_eq : catalog.totalAfter fs order = catalog.totalAfter fs' order := by
  rw [totalAfter, totalAfter, h.scan_eq hnames horder]

end Catalog.AgreeOutside

end Folio
