import Folio.Proofs.Blog.Reading
import Folio.Proofs.Catalog.Locality
import Mathlib.Data.List.Find

/-!
# Lookups stay in their directories

A lookup in the catalog depends on one category, and a lookup in the blog on the files that lie
directly in one directory. Nothing else on a disk shows in what they give, whatever names are asked
for.

Main results:

* `Blog.find_congr`: a lookup in the blog gives the same on disks that agree on its directory.
* `lookups_stay_inside`: the same of both lookups, for all names.
-/

namespace Folio

namespace Blog

section Congr

variable {blog : Blog} {fs fs' : FileSystem} (hplain : fs.PlainAt blog.dir)
  (hplain' : fs'.PlainAt blog.dir)
  (h : (fs.entriesAt blog.dir).SameEntries (fs'.entriesAt blog.dir))
include hplain hplain' h

theorem readFile_candidate_congr {slug path : String} (hslug : '/' ∉ slug.toList)
    (hpath : path ∈ blog.candidates slug) {bytes : List UInt8} :
    fs.readFile path = .ok bytes ↔ fs'.readFile path = .ok bytes := by
  obtain ⟨ext, hext, rfl⟩ := List.mem_map.mp hpath
  exact FileSystem.readFile_join_eq_ok_congr hplain hplain' (isPlainName_post hslug hext) h

/-- A lookup in the blog gives the same on disks that agree on its directory. -/
theorem find_congr (now : Instant) (slug : String) :
    blog.find fs now slug = blog.find fs' now slug := by
  by_cases hsafe : isSafeSlug slug
  swap
  · rw [find_of_not_isSafeSlug hsafe, find_of_not_isSafeSlug hsafe]
  have hslug := (isSafeSlug_iff.mp hsafe).2.1
  have hread {path : String} (hpath : path ∈ blog.candidates slug) {bytes : List UInt8} :
      fs.readFile path = .ok bytes ↔ fs'.readFile path = .ok bytes :=
    readFile_candidate_congr hplain hplain' h hslug hpath
  have hfirst : (blog.candidates slug).find? fs.isFile =
      (blog.candidates slug).find? fs'.isFile := by
    refine List.find?_congr fun path hpath => ?_
    rw [Bool.eq_iff_iff, FileSystem.isFile_iff, FileSystem.isFile_iff]
    exact exists_congr fun bytes => hread hpath
  rw [find, find, hfirst]
  cases hpath : (blog.candidates slug).find? fs'.isFile with
  | none => rfl
  | some path =>
    obtain ⟨bytes, hbytes⟩ := FileSystem.isFile_iff.mp (List.find?_some hpath)
    have hsame : read fs now path = read fs' now path := by
      rw [read, read, hbytes, (hread (List.mem_of_find?_eq_some hpath)).mpr hbytes]
    simp only [hsame]

end Congr

end Blog

/-- Of names that could lead elsewhere a lookup in the catalog finds nothing. On disks without links
that agree on a category, it gives the same for all names that are asked for in the category. A
lookup in the blog gives the same for all slugs on disks without links that agree on the entries of
its directory. -/
theorem lookups_stay_inside (catalog : Catalog) (blog : Blog) :
    (∀ fs category slug subcategory,
      ¬ (isSafeName category ∧ isSafeName slug ∧ subcategory.all isSafeName) →
        catalog.find fs category slug subcategory = .ok none) ∧
    (∀ fs fs' : FileSystem, fs.Plain → fs'.Plain →
      (∀ category tree tree', fs.readDirectory catalog.root = .ok tree →
        fs'.readDirectory catalog.root = .ok tree' → tree.SameBelow category tree' →
          ∀ slug subcategory, catalog.find fs category slug subcategory =
            catalog.find fs' category slug subcategory) ∧
      ((fs.entriesAt blog.dir).SameEntries (fs'.entriesAt blog.dir) →
        ∀ now slug, blog.find fs now slug = blog.find fs' now slug)) := by
  refine ⟨fun fs category slug subcategory => Catalog.find_eq_none_of_not_isSafeName catalog fs, ?_⟩
  intro fs fs' hplain hplain'
  constructor
  · intro category tree tree' htree htree' h slug subcategory
    obtain ⟨hwf, hlink⟩ := hplain.of_readDirectory htree
    obtain ⟨hwf', hlink'⟩ := hplain'.of_readDirectory htree'
    exact Catalog.find_congr ⟨htree, hwf⟩ hlink ⟨htree', hwf'⟩ hlink' h slug subcategory
  · intro h now slug
    exact Blog.find_congr (hplain.plainAt _) (hplain'.plainAt _) h now slug

/-- A site of two categories and a post. Some bytes lie in one category and in a directory beside
the post. -/
def siteTree (bytes : List UInt8) : Directory :=
  [("specs", .directory
      [("identity", .directory [("did.md", .file [35, 32, 68])]),
        ("secret", .directory [("key.md", .file bytes)])]),
    ("blog", .directory [("x.md", .file []), ("drafts", .directory [("y.md", .file bytes)])])]

theorem readDirectory_siteTree {bytes : List UInt8}
    (hplain : (FileSystem.holding "site" (siteTree bytes)).Plain) (name : String) {dir : Directory}
    (hname : (siteTree bytes).find? name = some (.directory dir))
    (hsize : (Path.join "site" name).utf8ByteSize < FileSystem.pathLimit) :
    FileSystem.readDirectory (.holding "site" (siteTree bytes)) (Path.join "site" name) =
      .ok dir := by
  have hroot : IsEntryName "site" := by decide
  have hsite := FileSystem.readDirectory_holding_self hroot (siteTree bytes)
  have hwf := (hplain.of_readDirectory hsite).1
  exact (FileSystem.readDirectory_entry_iff hsite hwf hname).mpr ⟨hsize, rfl⟩

theorem lookups_stay_inside_siteTree :
    (FileSystem.holding "site" (siteTree [1])).Plain ∧
      (FileSystem.holding "site" (siteTree [2])).Plain ∧
      Catalog.find ⟨"site/specs", []⟩ (.holding "site" (siteTree [1])) "identity" "did" none =
        Catalog.find ⟨"site/specs", []⟩ (.holding "site" (siteTree [2])) "identity" "did" none ∧
      Catalog.find ⟨"site/specs", []⟩ (.holding "site" (siteTree [1])) ".." "blog" (some "x") =
        .ok none ∧
      Blog.find ⟨"site/blog", .production⟩ (.holding "site" (siteTree [1])) ⟨0, 0⟩ "x" =
        Blog.find ⟨"site/blog", .production⟩ (.holding "site" (siteTree [2])) ⟨0, 0⟩ "x" := by
  have hplain : (FileSystem.holding "site" (siteTree [1])).Plain := by decide
  have hplain' : (FileSystem.holding "site" (siteTree [2])).Plain := by decide
  obtain ⟨hrefused, hsame⟩ :=
    lookups_stay_inside ⟨"site/specs", []⟩ ⟨"site/blog", .production⟩
  obtain ⟨hcatalog, hblog⟩ := hsame _ _ hplain hplain'
  have hjoin : Path.join "site" "specs" = "site/specs" := by decide
  have hjoin' : Path.join "site" "blog" = "site/blog" := by decide
  have hspecs := readDirectory_siteTree hplain "specs" rfl (by decide)
  have hspecs' := readDirectory_siteTree hplain' "specs" rfl (by decide)
  have hposts := readDirectory_siteTree hplain "blog" rfl (by decide)
  have hposts' := readDirectory_siteTree hplain' "blog" rfl (by decide)
  rw [hjoin] at hspecs hspecs'
  rw [hjoin'] at hposts hposts'
  refine ⟨hplain, hplain', ?_, ?_, ?_⟩
  · exact hcatalog "identity" _ _ hspecs hspecs' (.of_find?_eq rfl) "did" none
  · exact hrefused _ _ _ _ (by decide)
  · refine hblog ?_ ⟨0, 0⟩ "x"
    rw [FileSystem.entriesAt_eq hposts, FileSystem.entriesAt_eq hposts']
    exact .cons rfl (.cons rfl fun _ => rfl)

end Folio
