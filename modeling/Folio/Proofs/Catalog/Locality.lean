import Folio.Proofs.Catalog.Lookup
import Folio.Proofs.FileSystem.Agreement

/-!
# What a lookup reads

A lookup in a category reads the entry of the category and what is below it. On two disks that agree
on these it gives the same answer, be that content, nothing or an error.

Main results:

* `Catalog.findIn_congr`: what is found in one directory depends on its files alone.
* `Catalog.find_congr`: what is found in a category depends on what is in the category alone.
-/

namespace Folio

namespace Directory

theorem SameEntries.sortNames_directories {dir dir' : Directory} (h : dir.SameEntries dir')
    (hwf : dir.WellFormed) (hwf' : dir'.WellFormed) :
    sortNames dir.directories = sortNames dir'.directories := by
  refine sortNames_eq_of_perm ?_
  rw [List.perm_ext_iff_of_nodup (nodup_directories hwf) (nodup_directories hwf')]
  intro name
  rw [mem_directories_iff hwf, mem_directories_iff hwf', h.exists_directory_iff]

end Directory

namespace Catalog

theorem findIn_congr {fs fs' : FileSystem} {path slug : String} (hslug : IsPlainName slug)
    (hplain : fs.PlainAt path) (hplain' : fs'.PlainAt path)
    (h : (fs.entriesAt path).SameEntries (fs'.entriesAt path)) :
    findIn fs path slug = findIn fs' path slug := by
  have hformat : findFormat fs path slug = findFormat fs' path slug := by
    funext format
    apply Option.ext
    intro x
    simp only [findFormat_eq_some_iff_readFile,
      FileSystem.readFile_join_eq_ok_congr hplain hplain' (isPlainName_fileName hslug format) h]
  rw [findIn, findIn, hformat]

theorem HasTree.plainAt {catalog : Catalog} {fs : FileSystem} {tree : Directory}
    (htree : catalog.HasTree fs tree) (hlink : tree.LinkFree) : fs.PlainAt catalog.root := by
  constructor <;> rw [FileSystem.entriesAt_eq htree.read]
  exacts [htree.wellFormed, hlink]

section Category

variable {catalog : Catalog} {fs fs' : FileSystem} {tree tree' : Directory}
  (htree : catalog.HasTree fs tree) (hlink : tree.LinkFree) (htree' : catalog.HasTree fs' tree')
  (hlink' : tree'.LinkFree) {category : String} (h : tree.SameBelow category tree')
include htree hlink htree' hlink' h

theorem sameTree_entriesAt_category (hname : IsPlainName category) :
    (fs.entriesAt (Path.join catalog.root category)).SameTree
      (fs'.entriesAt (Path.join catalog.root category)) := by
  refine FileSystem.sameTree_entriesAt_join (htree.plainAt hlink) (htree'.plainAt hlink') hname
    (FileSystem.ne_empty_of_readDirectory htree.read) ?_
  rwa [FileSystem.entriesAt_eq htree.read, FileSystem.entriesAt_eq htree'.read]

theorem map_searched_congr (hname : IsPlainName category) :
    (fs.readDirectory (Path.join catalog.root category)).map searched =
      (fs'.readDirectory (Path.join catalog.root category)).map searched := by
  have hroot := FileSystem.ne_empty_of_readDirectory htree.read
  have hwf := ((htree.plainAt hlink).join hname hroot).wellFormed
  have hwf' := ((htree'.plainAt hlink').join hname hroot).wellFormed
  have hsame := sameTree_entriesAt_category htree hlink htree' hlink' h hname
  rcases FileSystem.readDirectory_congr (FileSystem.locate_join_congr htree.read htree'.read hname
    (hlink.find?_ne category) h.entry) with ⟨e, he, he'⟩ | ⟨dir, dir', hdir, hdir'⟩
  · rw [he, he']
  · rw [FileSystem.entriesAt_eq hdir] at hwf hsame
    rw [FileSystem.entriesAt_eq hdir'] at hwf' hsame
    have hsearched : searched dir = searched dir' := by
      rw [searched, searched, hsame.sameEntries.sortNames_directories hwf hwf']
    rw [hdir, hdir']
    exact congrArg Except.ok hsearched

/-- A lookup in a category gives the same on disks that agree on the category. -/
theorem find_congr (slug : String) (subcategory : Option String) :
    catalog.find fs category slug subcategory = catalog.find fs' category slug subcategory := by
  by_cases hsafe : isSafeName category ∧ isSafeName slug ∧ subcategory.all isSafeName
  swap
  · rw [find_eq_none_of_not_isSafeName _ _ hsafe,
      find_eq_none_of_not_isSafeName _ _ hsafe]
  obtain ⟨hcategory, hslug, hsubcategory⟩ := hsafe
  have hname := (isSafeName_iff.mp hcategory).1
  have hplain := (isSafeName_iff.mp hslug).1
  have hroot := FileSystem.ne_empty_of_readDirectory htree.read
  have hat := (htree.plainAt hlink).join hname hroot
  have hat' := (htree'.plainAt hlink').join hname hroot
  have hsame := sameTree_entriesAt_category htree hlink htree' hlink' h hname
  have hinside {name : String} (hsafe : isSafeName name) :
      findIn fs (Path.join (Path.join catalog.root category) name) slug =
        findIn fs' (Path.join (Path.join catalog.root category) name) slug := by
    have hbelow := (isSafeName_iff.mp hsafe).1
    have hpath := Path.join_ne_empty hroot hname.no_separator
    have hentries :=
      FileSystem.sameTree_entriesAt_join hat hat' hbelow hpath (hsame.sameBelow name)
    exact findIn_congr hplain (hat.join hbelow hpath) (hat'.join hbelow hpath) hentries.sameEntries
  cases subcategory with
  | some name => rw [find_some_eq, find_some_eq, hinside hsubcategory]
  | none =>
    rw [find_none_eq_match _ _ hcategory hslug, find_none_eq_match _ _ hcategory hslug,
      findIn_congr hplain hat hat' hsame.sameEntries,
      map_searched_congr htree hlink htree' hlink' h hname]
    cases fs'.readDirectory (Path.join catalog.root category) with
    | error e => rw [Except.map, Except.map, Except.map]
    | ok dir =>
      have hfound : (searched dir).filterMap (fun name =>
            findIn fs (Path.join (Path.join catalog.root category) name) slug) =
          (searched dir).filterMap fun name =>
            findIn fs' (Path.join (Path.join catalog.root category) name) slug :=
        List.filterMap_congr fun name hmem => hinside (List.mem_filter.mp hmem).2
      rw [Except.map, Except.map, Except.map, ← List.head?_filterMap, ← List.head?_filterMap,
        hfound]

end Category

end Catalog

end Folio
