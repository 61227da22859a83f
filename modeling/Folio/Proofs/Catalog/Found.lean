import Folio.Proofs.Catalog.Lookup

/-!
# What is found is listed

The content that a lookup finds is that of a document of the category. The name that a lookup makes
from a slug and the extension of a format is cut back to that slug and that format by a listing.

Main results:

* `find_listed`: what is found in a category that can be read is listed there, with the slug, the
  format and the metadata with which it is found.
* `exists_found_not_listed`: in a category that cannot be read a document can be found although
  there is no listing.
-/

namespace Folio

/-! ## Categories that can be read -/

section Category

variable {catalog : Catalog} {fs : FileSystem} {tree : Directory} (htree : catalog.HasTree fs tree)
  {category : String} {entries : Directory}
  (hcategory : tree.find? category = some (.directory entries))
include htree hcategory

theorem accessible_category (hlink : tree.LinkFree)
    (hread : ReadableAt fs (Path.join catalog.root category) category (.directory entries)) :
    Accessible fs (Path.join catalog.root category) entries := by
  obtain ⟨⟨read, hdir⟩, hbelow⟩ := hread
  obtain ⟨-, rfl⟩ :=
    (FileSystem.readDirectory_entry_iff htree.read htree.wellFormed hcategory).mp hdir
  exact ⟨hdir, htree.wellFormed.of_find? hcategory, hlink.below hcategory, hbelow⟩

theorem readableAt_of_documents {L : List Document} (hL : catalog.documents fs category = .ok L) :
    ReadableAt fs (Path.join catalog.root category) category (.directory entries) := by
  obtain ⟨read, hdir, -⟩ := bind_eq_ok_iff.mp hL
  obtain ⟨-, rfl⟩ :=
    (FileSystem.readDirectory_entry_iff htree.read htree.wellFormed hcategory).mp hdir
  have hwf := htree.wellFormed.of_find? hcategory
  exact ⟨⟨entries, hdir⟩, ((documents_eq_ok_iff hdir hwf).mp hL).1⟩

end Category

/-! ## Documents of found content -/

namespace Catalog

/-- The file of a slug in a format yields a document with that slug and that format. -/
theorem yields_fileName {slug : String} (hslug : slug ≠ "") (format : Format) (category : String)
    (above : List String) (bytes : List UInt8) :
    File.Yields category ⟨above, fileName slug format, bytes⟩
      { slug, filename := fileName slug format, category, subcategory := above.head?, format,
        metadata := (contentOf slug format bytes).metadata } where
  category_eq := rfl
  subcategory_eq := rfl
  filename_eq := rfl
  name_eq := ⟨format.ext, rfl, hslug, format.dot_notMem_ext,
    Format.ofExtension?_eq_some_iff.mp format.ofExtension?_ext⟩
  metadata_eq := rfl

theorem IsFound.exists_document {catalog : Catalog} {fs : FileSystem} {category slug : String}
    {entries dir : Directory} (h : Accessible fs (Path.join catalog.root category) entries)
    {above : List String} (habove : entries.below? above = some dir) (hslug : slug ≠ "")
    {x : Content} (hx : IsFound dir slug x) {L : List Document}
    (hL : catalog.documents fs category = .ok L) :
    ∃ d ∈ L, d.slug = slug ∧ d.subcategory = above.head? ∧ d.format = x.format ∧
      d.metadata = x.metadata := by
  obtain ⟨bytes, hfile, hcontent⟩ := hx.exists_file
  have hin : File.In entries ⟨above, fileName slug x.format, bytes⟩ := by
    rw [File.In, Directory.node?, habove]
    exact hfile
  refine ⟨_, (mem_documents_iff h.read h.wellFormed hL).mpr
    ⟨_, hin, yields_fileName hslug x.format category above bytes⟩, rfl, rfl, rfl, ?_⟩
  exact congrArg Content.metadata hcontent.symm

end Catalog

open Catalog in
/-- What is found in a category that can be read is listed. -/
theorem find_listed {catalog : Catalog} {fs : FileSystem} {tree : Directory}
    (htree : catalog.HasTree fs tree) (hlink : tree.LinkFree) {category : String}
    {entries : Directory} (hcategory : tree.find? category = some (.directory entries))
    (hread : ReadableAt fs (Path.join catalog.root category) category (.directory entries))
    {slug : String} {subcategory : Option String} {x : Content}
    (hfind : catalog.find fs category slug subcategory = .ok (some x)) :
    ∃ L, catalog.documents fs category = .ok L ∧
      ∃ d ∈ L, d.slug = slug ∧ d.format = x.format ∧ d.metadata = x.metadata ∧
        (d.subcategory = subcategory ∨ subcategory = none ∧ ¬ HasFile entries slug ∧
          ∃ name below, d.subcategory = some name ∧
            entries.find? name = some (.directory below)) := by
  have h := accessible_category htree hcategory hlink hread
  have hL := (documents_eq_ok_iff h.read h.wellFormed).mpr ⟨h.readable, rfl⟩
  obtain ⟨hslug, above, found, habove, hx, hplace⟩ := exists_place_of_find h hfind
  obtain ⟨d, hd, hdslug, hsub, hformat, hmetadata⟩ :=
    hx.exists_document h habove (isSafeName_iff.mp hslug).1.ne_empty hL
  refine ⟨_, hL, d, hd, hdslug, hformat, hmetadata, ?_⟩
  rcases hplace with rfl | ⟨hnone, hno, name, rfl⟩
  · rw [hsub, Option.head?_toList]
    exact Or.inl rfl
  · obtain ⟨below, hname, -⟩ := Directory.below?_cons_eq_some_iff.mp habove
    exact Or.inr ⟨hnone, hno, name, below, hsub, hname⟩

/-- A category with a document in it and two of one slug in a directory of it. -/
def twoLevelEntries : Directory :=
  [("did.JSON", .file []),
    ("core", .directory [("did.v1.json", .file []), ("did.v1.md", .file [35, 32, 68])])]

/-- A catalog of that category. -/
def twoLevelTree : Directory := [("identity", .directory twoLevelEntries)]

theorem wellFormed_twoLevelTree : twoLevelTree.WellFormed := by decide

theorem hasTree_twoLevelTree :
    (Catalog.ofRoot "specs").HasTree (.holding "specs" twoLevelTree) twoLevelTree :=
  hasTree_holding (by decide) wellFormed_twoLevelTree

theorem linkFree_twoLevelTree : twoLevelTree.LinkFree :=
  (Directory.linkFree_iff wellFormed_twoLevelTree).mpr (by decide)

theorem readableAt_twoLevelTree :
    ReadableAt (.holding "specs" twoLevelTree) (Path.join "specs" "identity") "identity"
      (.directory twoLevelEntries) :=
  readable_iff.mp (readable_holding (by decide) wellFormed_twoLevelTree (by decide)) _ _ rfl

theorem find_listed_twoLevelTree :
    (Catalog.ofRoot "specs").HasTree (.holding "specs" twoLevelTree) twoLevelTree ∧
      twoLevelTree.LinkFree ∧ twoLevelTree.find? "identity" = some (.directory twoLevelEntries) ∧
      ReadableAt (.holding "specs" twoLevelTree) (Path.join "specs" "identity") "identity"
        (.directory twoLevelEntries) ∧
      ∃ x, (Catalog.ofRoot "specs").find (.holding "specs" twoLevelTree) "identity" "did.v1" none =
          .ok (some x) ∧
        ∃ L, (Catalog.ofRoot "specs").documents (.holding "specs" twoLevelTree) "identity" = .ok L ∧
          ∃ d ∈ L, d.slug = "did.v1" ∧ d.format = x.format ∧ d.metadata = x.metadata ∧
            (d.subcategory = none ∨ (none : Option String) = none ∧
              ¬ Catalog.HasFile twoLevelEntries "did.v1" ∧ ∃ name below,
                d.subcategory = some name ∧
                  twoLevelEntries.find? name = some (.directory below)) := by
  have h := accessible_category hasTree_twoLevelTree rfl linkFree_twoLevelTree
    readableAt_twoLevelTree
  have hno : ¬ Catalog.HasFile twoLevelEntries "did.v1" := by
    rintro ⟨format, bytes, hfile⟩
    cases format <;> cases hfile
  have hx : Catalog.IsFoundBelow twoLevelEntries "did.v1"
      (Catalog.contentOf "did.v1" .markdown [35, 32, 68]) := by
    refine ⟨"core", _, by decide, rfl, ⟨⟨_, rfl, rfl⟩, ?_⟩, ?_⟩
    · intro format hformat
      exact absurd hformat (Nat.not_lt_zero _)
    · intro other below hlt _ hbelow
      have hmem := Directory.mem_of_find? hbelow
      simp [twoLevelEntries] at hmem
      exact absurd hmem.1 hlt.ne
  have hfind := (Catalog.find_none_eq_ok_some_iff h).mpr ⟨by decide, Or.inr ⟨hno, hx⟩⟩
  exact ⟨hasTree_twoLevelTree, linkFree_twoLevelTree, rfl, readableAt_twoLevelTree, _, hfind,
    find_listed hasTree_twoLevelTree linkFree_twoLevelTree rfl readableAt_twoLevelTree hfind⟩

/-! ## A category that cannot be read -/

/-- A category with two documents, one with a longer name. -/
def pairEntries : Directory :=
  [("a.md", .file [35, 32, 65, 10]), ("bbb.md", .file [35, 32, 66, 10])]

/-- A catalog of that category. -/
def pairTree : Directory := [("c", .directory pairEntries)]

section LongRoot

variable {root : String} (hroot : FileSystem.readDirectory (.holding "specs" pairTree) root =
    .ok pairTree) (hjoin : Path.join root "c" = root ++ "c") (hsize : root.utf8ByteSize = 4088)
include hroot hjoin hsize

theorem readDirectory_pairTree :
    FileSystem.readDirectory (.holding "specs" pairTree) (Path.join root "c") =
      .ok pairEntries := by
  refine (FileSystem.readDirectory_entry_iff hroot (by decide) rfl).mpr ⟨?_, rfl⟩
  rw [hjoin, String.utf8ByteSize_append, hsize]
  decide

theorem readFile_pairTree_iff {name : String} {bytes read : List UInt8}
    (hname : pairEntries.find? name = some (.file bytes)) :
    FileSystem.readFile (.holding "specs" pairTree) (Path.join (Path.join root "c") name) =
      .ok read ↔ name.utf8ByteSize < 6 ∧ bytes = read := by
  have hwf : pairEntries.WellFormed := by decide
  have hseparator := (hwf.isEntryName hname).no_separator
  have hlast : (root ++ "c").toList.getLast? ≠ some '/' := by
    simp
  have hlength : (Path.join (Path.join root "c") name).utf8ByteSize = 4090 + name.utf8ByteSize := by
    rw [hjoin, Path.join_eq_append_slash (by simp) hlast hseparator]
    simp only [String.utf8ByteSize_append, hsize]
    rfl
  rw [FileSystem.readFile_entry_iff (readDirectory_pairTree hroot hjoin hsize) hwf hname, hlength,
    FileSystem.pathLimit]
  exact and_congr_left fun _ => by omega

theorem found_not_listed_pairTree :
    (∃ x, (Catalog.ofRoot root).find (.holding "specs" pairTree) "c" "a" none = .ok (some x)) ∧
      ∀ L, (Catalog.ofRoot root).documents (.holding "specs" pairTree) "c" ≠ .ok L := by
  have hcategory : FileSystem.readDirectory (.holding "specs" pairTree)
      (Path.join (Catalog.ofRoot root).root "c") = .ok pairEntries :=
    readDirectory_pairTree hroot hjoin hsize
  have hwf : pairEntries.WellFormed := by decide
  constructor
  · have hfile : pairEntries.find? (Catalog.fileName "a" .markdown) =
        some (.file [35, 32, 65, 10]) := rfl
    have hread := (readFile_pairTree_iff hroot hjoin hsize hfile).mpr ⟨by decide, rfl⟩
    have hfound := Catalog.findFormat_eq_some_iff_readFile.mpr ⟨_, hread, rfl⟩
    have hsafe : isSafeName "c" ∧ isSafeName "a" := by decide
    refine ⟨Catalog.contentOf "a" .markdown [35, 32, 65, 10], ?_⟩
    rw [Catalog.find, Catalog.findIn, Format.all, List.findSome?_cons, hsafe.1, hsafe.2,
      Catalog.ofRoot, hfound]
    rfl
  · intro L hL
    have hfile : pairEntries.find? "bbb.md" = some (.file [35, 32, 66, 10]) := rfl
    have hread := ((documents_eq_ok_iff hcategory hwf).mp hL).1
    obtain ⟨read, hok⟩ := hread.files [] "bbb.md" _ hfile (by decide)
    have hlt := ((readFile_pairTree_iff hroot hjoin hsize hfile).mp hok).1
    exact absurd hlt (by decide)

end LongRoot

/-- Where the path of another document is too long, one is found although there is no listing. -/
theorem exists_found_not_listed :
    (Catalog.ofRoot (FileSystem.slashed "specs" 4083)).HasTree (.holding "specs" pairTree)
        pairTree ∧
      pairTree.LinkFree ∧ (∃ entries, pairTree.find? "c" = some (.directory entries)) ∧
      (∃ x, (Catalog.ofRoot (FileSystem.slashed "specs" 4083)).find (.holding "specs" pairTree)
        "c" "a" none = .ok (some x)) ∧
      ∀ L, (Catalog.ofRoot (FileSystem.slashed "specs" 4083)).documents (.holding "specs" pairTree)
        "c" ≠ .ok L := by
  have hwf : pairTree.WellFormed := by decide
  have hsize := FileSystem.size_slashed "specs" 4083
  have hroot := FileSystem.readDirectory_holding (by decide) pairTree
    (hsize.trans_lt (by decide : 4088 < FileSystem.pathLimit))
  have hjoin : Path.join (FileSystem.slashed "specs" 4083) "c" =
      FileSystem.slashed "specs" 4083 ++ "c" := FileSystem.join_slashed 4082 (by decide)
  exact ⟨⟨hroot, hwf⟩, (Directory.linkFree_iff hwf).mpr (by decide), ⟨_, rfl⟩,
    found_not_listed_pairTree hroot hjoin hsize⟩

end Folio
