import Folio.Proofs.Catalog.Listing
import Folio.Proofs.FileSystem.Replacement
import Mathlib.Data.List.Perm.Basic

/-!
# Other bytes in one file

What the bytes of a file say shows in the metadata of its own document and nowhere else: whether it
has a document, and the rest of that document, depend on the place and the name of the file alone, and
the documents of other files do not depend on it at all.

Main definitions:

* `File.place`, `File.withBytes`: where a file is, and the file with other bytes.
* `Document.bare`: what a document says but for its metadata.

Main results:

* `exists_filesIn_put`: the files of a tree in which one file has other bytes.
* `documents_withBytes`: what this changes in the listing of a category, and what it leaves in the
  catalog.
-/

namespace Folio

/-- Where a file is. -/
def File.place (file : File) : List String := file.above ++ [file.name]

theorem File.place_ne_nil (file : File) : file.place ≠ [] := List.concat_ne_nil _ _

/-- The file with other bytes. -/
def File.withBytes (file : File) (bytes : List UInt8) : File := { file with bytes }

/-- What a document says but for its metadata. -/
def Document.bare (d : Document) : Document := { d with metadata := default }

theorem File.map_bare_document?_withBytes (category : String) (file : File) (bytes : List UInt8) :
    ((file.withBytes bytes).document? category).map Document.bare =
      (file.document? category).map Document.bare := by
  rw [document?, document?, Option.map_map, Option.map_map]
  rfl

theorem exists_filesIn_put_of_node? {dir : Directory} (hwf : dir.WellFormed) {above : List String}
    {name : String} {old : List UInt8} (hfile : dir.node? above name = some (.file old))
    (bytes : List UInt8) (top : List String) :
    ∃ before after, filesIn top dir = before ++ ⟨top ++ above, name, old⟩ :: after ∧
      filesIn top (dir.put (.file bytes) (above ++ [name])) =
        before ++ ⟨top ++ above, name, bytes⟩ :: after := by
  induction above generalizing dir top with
  | nil =>
    obtain ⟨before, after, rfl⟩ := List.append_of_mem (Directory.mem_of_find? hfile)
    refine ⟨filesIn top before, filesIn top after, ?_, ?_⟩
    · rw [filesIn_append, filesIn_cons, filesAt_file, List.append_nil, List.singleton_append]
    · rw [List.nil_append, Directory.put, hwf.set_eq, filesIn_append, filesIn_cons, filesAt_file,
        List.append_nil, List.singleton_append]
  | cons p above ih =>
    obtain ⟨entries, hp, hinner⟩ := Directory.node?_cons_eq_some_iff.mp hfile
    obtain ⟨inner, inner', hold, hnew⟩ := ih (hwf.of_find? hp) hinner (top ++ [p])
    have hput := Directory.put_cons (.file bytes) hp (List.concat_ne_nil name above)
    obtain ⟨before, after, rfl⟩ := List.append_of_mem (Directory.mem_of_find? hp)
    refine ⟨filesIn top before ++ inner, inner' ++ filesIn top after, ?_, ?_⟩
    · rw [filesIn_append, filesIn_cons, filesAt_directory, hold]
      simp
    · rw [List.cons_append, hput, hwf.set_eq, filesIn_append, filesIn_cons, filesAt_directory, hnew]
      simp

section Listing

variable {entries : Directory} (hwf : entries.WellFormed) {file : File} (hfile : file.In entries)
  (bytes : List UInt8)
include hwf hfile

theorem exists_filesIn_put :
    ∃ before after, filesIn [] entries = before ++ file :: after ∧
      filesIn [] (entries.put (.file bytes) file.place) =
        before ++ file.withBytes bytes :: after :=
  exists_filesIn_put_of_node? hwf hfile bytes []

/-- The documents of a category come from one file and from the others. Other bytes in the one file
leave those of the others. -/
theorem exists_listingOf_put (category : String) :
    ∃ others : List File, others.Nodup ∧
      (∀ other, other ∈ others ↔ other.In entries ∧ other ≠ file) ∧
      (listingOf category entries).Perm ((file.document? category).toList ++
        others.filterMap (File.document? category)) ∧
      (listingOf category (entries.put (.file bytes) file.place)).Perm
        (((file.withBytes bytes).document? category).toList ++
          others.filterMap (File.document? category)) := by
  obtain ⟨before, after, hold, hnew⟩ := exists_filesIn_put hwf hfile bytes
  have hnodup := nodup_filesIn hwf []
  rw [hold, List.nodup_middle, List.nodup_cons] at hnodup
  have hdocuments (file : File) :
      (Document.sort ((before ++ file :: after).filterMap (File.document? category))).Perm
        ((file.document? category).toList ++
          (before ++ after).filterMap (File.document? category)) := by
    refine (Document.sort_perm _).trans ((List.perm_middle.filterMap _).trans (.of_eq ?_))
    cases hdocument : file.document? category with
    | none => rw [List.filterMap_cons_none hdocument, Option.toList_none, List.nil_append]
    | some d =>
      rw [List.filterMap_cons_some hdocument, Option.toList_some, List.singleton_append]
  refine ⟨before ++ after, hnodup.2, fun other => ?_, ?_, ?_⟩
  · have hmem : other ∈ filesIn [] entries ↔ other.In entries := by
      rw [mem_filesIn_iff hwf]
      simp only [List.nil_append, exists_eq_left']
      rfl
    rw [← hmem, hold, List.perm_middle.mem_iff, List.mem_cons]
    constructor
    · intro hother
      refine ⟨.inr hother, ?_⟩
      rintro rfl
      exact hnodup.1 hother
    · rintro ⟨rfl | hother, hne⟩
      · exact absurd rfl hne
      · exact hother
  · rw [listingOf, hold]
    exact hdocuments file
  · rw [listingOf, hnew]
    exact hdocuments (file.withBytes bytes)

theorem map_bare_listingOf_put (category : String) :
    ((listingOf category (entries.put (.file bytes) file.place)).map Document.bare).Perm
      ((listingOf category entries).map Document.bare) := by
  obtain ⟨others, -, -, hold, hnew⟩ := exists_listingOf_put hwf hfile bytes category
  have hbare : (((file.withBytes bytes).document? category).toList.map Document.bare) =
      (file.document? category).toList.map Document.bare := by
    rw [← Option.toList_map, ← Option.toList_map, File.map_bare_document?_withBytes]
  have hold := hold.map Document.bare
  have hnew := hnew.map Document.bare
  rw [List.map_append] at hold hnew
  rw [hbare] at hnew
  exact hnew.trans hold.symm

end Listing

/-! ## Disks -/

theorem Directory.directories_replace {before after entries entries' : Directory} {name : String} :
    Directory.directories (before ++ (name, .directory entries') :: after) =
      Directory.directories (before ++ (name, .directory entries) :: after) := by
  simp only [directories, List.filter_append, List.map_append]
  rfl

section Tree

variable {tree entries : Directory} (hwf : tree.WellFormed) {category : String}
  (hcategory : tree.find? category = some (.directory entries)) {file : File} (bytes : List UInt8)
include hwf hcategory

theorem directories_put :
    (tree.put (.file bytes) (category :: file.place)).directories = tree.directories := by
  rw [Directory.put_cons _ hcategory file.place_ne_nil]
  obtain ⟨before, after, rfl⟩ := List.append_of_mem (Directory.mem_of_find? hcategory)
  rw [hwf.set_eq]
  exact Directory.directories_replace

/-- All but one category keep their listings, and that one keeps what is not metadata. -/
theorem map_bare_listingOf_entriesOf_put (hfile : file.In entries) (other : String) :
    ((listingOf other ((tree.put (.file bytes) (category :: file.place)).entriesOf other)).map
        Document.bare).Perm
      ((listingOf other (tree.entriesOf other)).map Document.bare) := by
  obtain ⟨hput, hothers⟩ :=
    Directory.find?_put_cons hwf (.file bytes) hcategory file.place_ne_nil
  by_cases hother : other = category
  · subst hother
    rw [Directory.entriesOf_eq hput, Directory.entriesOf_eq hcategory]
    exact map_bare_listingOf_put (hwf.of_find? hcategory) hfile bytes other
  · rw [Directory.entriesOf, hothers other hother]
    exact .refl _

end Tree

section Disk

variable {catalog : Catalog} {fs : FileSystem} (hdisk : fs.root.WellFormed)
  {position : FileSystem.Position} (hroot : fs.locate catalog.root = .ok (.directory position))
  (hread : Readable fs catalog.root position.here) {above : List String} {name : String}
  {old : List UInt8} (hfile : position.here.node? above name = some (.file old))
  (bytes : List UInt8)
include hdisk hroot

theorem Catalog.hasTree_of_locate : catalog.HasTree fs position.here :=
  ⟨FileSystem.readDirectory_eq_ok_iff.mpr ⟨position, hroot, rfl⟩,
    hdisk.below? (FileSystem.in_of_locate hroot).below?_place⟩

include hfile

theorem Catalog.hasTree_withBytes :
    catalog.HasTree (fs.withBytes (position.place ++ (above ++ [name])) bytes)
      (position.here.put (.file bytes) (above ++ [name])) := by
  have htree := Catalog.hasTree_of_locate hdisk hroot
  exact ⟨FileSystem.readDirectory_withBytes hdisk hroot hfile bytes,
    Directory.wellFormed_put_file htree.wellFormed hfile bytes⟩

include hread

theorem readable_withBytes :
    Readable (fs.withBytes (position.place ++ (above ++ [name])) bytes) catalog.root
      (position.here.put (.file bytes) (above ++ [name])) := by
  have htree := Catalog.hasTree_of_locate hdisk hroot
  have htree' := Catalog.hasTree_withBytes hdisk hroot hfile bytes
  exact hread.of_alike (Directory.alike_put_file htree.wellFormed hfile bytes) htree.wellFormed
    htree.read htree'.wellFormed htree'.read

end Disk

section Bare

variable {catalog : Catalog} {fs fs' : FileSystem} {tree tree' : Directory}
  (htree : catalog.HasTree fs tree) (hread : Readable fs catalog.root tree)
  (htree' : catalog.HasTree fs' tree') (hread' : Readable fs' catalog.root tree')
  {names : List String} (hnames : catalog.categories fs = .ok names)
  (hnames' : catalog.categories fs' = .ok names)
  (hbare : ∀ category,
    ((listingOf category (tree'.entriesOf category)).map Document.bare).Perm
      ((listingOf category (tree.entriesOf category)).map Document.bare))
include htree hread htree' hread' hnames hnames' hbare

/-- Metadata do not show in routes. -/
theorem exists_routes_of_bare :
    ∃ R R', catalog.routes fs = .ok R ∧ catalog.routes fs' = .ok R' ∧ R'.Perm R := by
  refine ⟨_, _, htree.routes_eq hread hnames, htree'.routes_eq hread' hnames', ?_⟩
  refine List.Perm.flatMap_left _ fun category _ => ?_
  have hroutes := (hbare category).map Document.route
  rw [List.map_map, List.map_map] at hroutes
  exact hroutes

/-- Metadata do not show in the total. -/
theorem exists_total_of_bare : ∃ n, catalog.total fs = .ok n ∧ catalog.total fs' = .ok n := by
  have hlength (category : String) :
      (listingOf category (tree'.entriesOf category)).length =
        (listingOf category (tree.entriesOf category)).length := by
    simpa only [List.length_map] using (hbare category).length_eq
  have htotal := htree.totalAfter_eq hread hnames (List.Subset.refl _)
  have htotal' := htree'.totalAfter_eq hread' hnames' (List.Subset.refl _)
  simp only [hlength] at htotal'
  rw [Catalog.total, Catalog.total, hnames, hnames']
  exact ⟨_, htotal, htotal'⟩

end Bare

/-- If a file of a category gets other bytes, the listing of the category still succeeds. It has the
documents of the other files as before, and for the file a document iff it had one. Nothing but
metadata changes in it. The listings of other categories, the routes and the total stay. -/
theorem documents_withBytes {catalog : Catalog} {fs : FileSystem} (hdisk : fs.root.WellFormed)
    {position : FileSystem.Position} (hroot : fs.locate catalog.root = .ok (.directory position))
    (hread : Readable fs catalog.root position.here) {category : String} {entries : Directory}
    (hcategory : position.here.find? category = some (.directory entries)) {file : File}
    (hfile : file.In entries) (bytes : List UInt8) :
    let fs' := fs.withBytes (position.place ++ category :: file.place) bytes
    ∃ (L L' : List Document) (others : List File),
      catalog.documents fs category = .ok L ∧ catalog.documents fs' category = .ok L' ∧
      others.Nodup ∧ (∀ other, other ∈ others ↔ other.In entries ∧ other ≠ file) ∧
      L.Perm ((file.document? category).toList ++ others.filterMap (File.document? category)) ∧
      L'.Perm (((file.withBytes bytes).document? category).toList ++
        others.filterMap (File.document? category)) ∧
      (L'.map fun d => (d.subcategory, d.filename, d.slug, d.format)).Perm
        (L.map fun d => (d.subcategory, d.filename, d.slug, d.format)) ∧
      (∀ other inner, position.here.find? other = some (.directory inner) → other ≠ category →
        catalog.documents fs' other = catalog.documents fs other) ∧
      (∃ R R', catalog.routes fs = .ok R ∧ catalog.routes fs' = .ok R' ∧ R'.Perm R) ∧
      ∃ n, catalog.total fs = .ok n ∧ catalog.total fs' = .ok n := by
  intro fs'
  have htree := Catalog.hasTree_of_locate hdisk hroot
  have hnode : position.here.node? (category :: file.above) file.name = some (.file file.bytes) :=
    Directory.node?_cons_eq_some_iff.mpr ⟨entries, hcategory, hfile⟩
  let tree' := position.here.put (.file bytes) (category :: file.place)
  have htree' : catalog.HasTree fs' tree' := Catalog.hasTree_withBytes hdisk hroot hnode bytes
  have hread' : Readable fs' catalog.root tree' :=
    readable_withBytes hdisk hroot hread hnode bytes
  obtain ⟨hput, hothers⟩ :=
    Directory.find?_put_cons htree.wellFormed (.file bytes) hcategory file.place_ne_nil
  have hwf := htree.wellFormed.of_find? hcategory
  obtain ⟨others, hnodup, hmem, hL, hL'⟩ := exists_listingOf_put hwf hfile bytes category
  have hnames := htree.categories_eq
  have hnames' : catalog.categories fs' = _ := htree'.categories_eq
  rw [directories_put htree.wellFormed hcategory bytes] at hnames'
  have hbare := map_bare_listingOf_entriesOf_put htree.wellFormed hcategory bytes hfile
  refine ⟨_, _, others, htree.documents_eq hread hcategory, htree'.documents_eq hread' hput, hnodup,
    hmem, hL, hL', ?_, ?_, ?_, ?_⟩
  · have hkept := (map_bare_listingOf_put hwf hfile bytes category).map
      fun d => (d.subcategory, d.filename, d.slug, d.format)
    rw [List.map_map, List.map_map] at hkept
    exact hkept
  · intro other inner hother hne
    rw [htree.documents_eq hread hother]
    exact htree'.documents_eq hread' ((hothers other hne).trans hother)
  · exact exists_routes_of_bare htree hread htree' hread' hnames hnames' hbare
  · exact exists_total_of_bare htree hread htree' hread' hnames hnames' hbare

/-- A file of `nestedTree` that is replaced by bytes that are no text. -/
theorem documents_withBytes_nestedTree :
    (FileSystem.holding "specs" nestedTree).root.WellFormed ∧
      ∃ (position : FileSystem.Position) (entries : Directory),
        (FileSystem.holding "specs" nestedTree).locate "specs" = .ok (.directory position) ∧
        Readable (.holding "specs" nestedTree) "specs" position.here ∧
        position.here.find? "identity" = some (.directory entries) ∧
        File.In entries ⟨["core", "data"], "did.md", [35, 32, 68]⟩ ∧
        ∃ L L',
          (Catalog.ofRoot "specs").documents (.holding "specs" nestedTree) "identity" = .ok L ∧
          (Catalog.ofRoot "specs").documents ((FileSystem.holding "specs" nestedTree).withBytes
            (position.place ++ ["identity", "core", "data", "did.md"]) [255, 123]) "identity" =
            .ok L' ∧
          (L'.map fun d => (d.subcategory, d.filename, d.slug, d.format)).Perm
            (L.map fun d => (d.subcategory, d.filename, d.slug, d.format)) := by
  have hroot : IsEntryName "specs" := by decide
  have hwf : nestedTree.WellFormed := by decide
  have hdisk : (FileSystem.holding "specs" nestedTree).root.WellFormed := by decide
  have htree := hasTree_holding hroot hwf
  obtain ⟨position, hposition, hhere⟩ := FileSystem.readDirectory_eq_ok_iff.mp htree.read
  have hread : Readable (.holding "specs" nestedTree) "specs" position.here := by
    rw [hhere]
    exact readable_holding hroot hwf (by decide)
  obtain ⟨entries, hcategory, hfile⟩ : ∃ entries,
      nestedTree.find? "identity" = some (.directory entries) ∧
        File.In entries ⟨["core", "data"], "did.md", [35, 32, 68]⟩ := ⟨_, rfl, rfl⟩
  rw [← hhere] at hcategory
  obtain ⟨L, L', -, hL, hL', -, -, -, -, hkept, -⟩ :=
    documents_withBytes hdisk hposition hread hcategory hfile [255, 123]
  exact ⟨hdisk, position, entries, hposition, hread, hcategory, hfile, L, L', hL, hL', hkept⟩

end Folio
