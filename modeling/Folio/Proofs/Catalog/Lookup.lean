import Folio.Catalog.Lookup
import Folio.Proofs.Catalog.Listing

/-!
# What a lookup finds

Where a path leads to a directory of real directories and files that can be read, a lookup there
depends on the names in the tree alone: the file that is found is the first one in the order of
formats, and in the order of the directories where several are searched.

Main definitions:

* `Accessible`: whether a path leads to a directory of real directories and readable files.
* `HasFile`: whether a directory has a file of a slug in any format.
* `IsFound`: the content of the first file of a slug in a directory.
* `IsFoundBelow`: the same in the first directory that has such a file.
* `IsPlace`: the walks from a category to where its files are found.

Results:

* `findIn_eq_some_iff`, `findIn_eq_none_iff`: what is found in one directory, and when.
* `find_some_eq_ok_some_iff`, `find_none_eq_ok_some_iff`: what is found in a category, with a
  subcategory and without one.
-/

namespace Folio

/-! ## First results -/

/-- The first result in a list that ascends by a key is the result with the least key. -/
theorem findSome?_eq_some_iff_of_pairwise {α β κ : Type} [LinearOrder κ] {k : α → κ}
    {xs : List α} (hxs : xs.Pairwise fun a b => k a < k b) {f : α → Option β} {y : β} :
    xs.findSome? f = some y ↔
      ∃ a ∈ xs, f a = some y ∧ ∀ b ∈ xs, k b < k a → f b = none := by
  rw [List.findSome?_eq_some_iff]
  constructor
  · rintro ⟨before, a, after, rfl, ha, hbefore⟩
    refine ⟨a, by simp, ha, fun b hb hlt => ?_⟩
    rcases List.mem_append.mp hb with hb | hb
    · exact hbefore b hb
    · have hle : k a ≤ k b := by
        rcases List.mem_cons.mp hb with rfl | hb
        · exact le_rfl
        · have hafter := (List.pairwise_append.mp hxs).2.1
          exact (List.rel_of_pairwise_cons hafter hb).le
      exact absurd hlt hle.not_gt
  · rintro ⟨a, hmem, ha, hleast⟩
    obtain ⟨before, after, rfl⟩ := List.append_of_mem hmem
    refine ⟨before, a, after, rfl, ha, fun b hb => ?_⟩
    have hlt := (List.pairwise_append.mp hxs).2.2 b hb a List.mem_cons_self
    exact hleast b (List.mem_append_left _ hb) hlt

/-- The place of a format in the order in which files are looked for. -/
def Format.rank (format : Format) : Nat := Format.all.idxOf format

theorem Format.pairwise_rank : Format.all.Pairwise fun a b => a.rank < b.rank := by decide

theorem Format.mem_all (format : Format) : format ∈ Format.all := by cases format <;> decide

/-! ## Safe names -/

theorem isSafeName_iff {name : String} :
    isSafeName name ↔ IsPlainName name ∧ '\\' ∉ name.toList := by
  simp only [isSafeName, Bool.and_eq_true, Bool.not_eq_true', decide_eq_true_eq,
    List.contains_eq_mem, decide_eq_false_iff_not]
  constructor
  · rintro ⟨⟨⟨⟨hempty, hhere⟩, habove⟩, hseparator⟩, hback⟩
    exact ⟨⟨hempty, hhere, habove, hseparator⟩, hback⟩
  · rintro ⟨⟨hempty, hhere, habove, hseparator⟩, hback⟩
    exact ⟨⟨⟨⟨hempty, hhere⟩, habove⟩, hseparator⟩, hback⟩

theorem isSafeName_of_find? {dir : Directory} (hwf : dir.WellFormed) (hback : dir.BackslashFree)
    {name : String} {node : Node} (hname : dir.find? name = some node) : isSafeName name :=
  isSafeName_iff.mpr ⟨(hwf.isEntryName hname).toIsPlainName, hback [] name node hname⟩

/-! ## One directory -/

/-- A path leads to a directory that holds real directories and files alone, and all that listings
read there can be read. -/
structure Accessible (fs : FileSystem) (path : String) (dir : Directory) : Prop where
  read : fs.readDirectory path = .ok dir
  wellFormed : dir.WellFormed
  linkFree : dir.LinkFree
  readable : Readable fs path dir

theorem Accessible.below {fs : FileSystem} {path name : String} {dir entries : Directory}
    (h : Accessible fs path dir) (hname : dir.find? name = some (.directory entries)) :
    Accessible fs (Path.join path name) entries := by
  obtain ⟨⟨read, hread⟩, hentries⟩ := readable_iff.mp h.readable name _ hname
  obtain ⟨-, rfl⟩ := (FileSystem.readDirectory_entry_iff h.read h.wellFormed hname).mp hread
  exact ⟨hread, h.wellFormed.of_find? hname, h.linkFree.below hname, hentries⟩

theorem Accessible.below? {fs : FileSystem} {path : String} {dir below : Directory}
    (h : Accessible fs path dir) {above : List String} (habove : dir.below? above = some below) :
    Accessible fs (Path.joinAll path above) below := by
  induction above generalizing path dir with
  | nil =>
    cases habove
    exact h
  | cons name above ih =>
    obtain ⟨entries, hname, hentries⟩ := Directory.below?_cons_eq_some_iff.mp habove
    exact ih (h.below hname) hentries

theorem Accessible.find?_eq_of_readDirectory {fs : FileSystem} {path name : String}
    {dir entries : Directory} (h : Accessible fs path dir) (hname : IsPlainName name)
    (hread : fs.readDirectory (Path.join path name) = .ok entries) :
    dir.find? name = some (.directory entries) :=
  ((FileSystem.readDirectory_join_eq_ok_iff h.read h.wellFormed hname
    (h.linkFree.find?_ne name)).mp hread).2

namespace Catalog

theorem isPlainName_fileName {slug : String} (hslug : IsPlainName slug) (format : Format) :
    IsPlainName (fileName slug format) :=
  isPlainName_append_dot hslug.no_separator (by cases format <;> decide)
    (by cases format <;> decide)

theorem ofName?_fileName {slug : String} (hslug : slug ≠ "") (format : Format) :
    Format.ofName? (fileName slug format) = some format := by
  rw [fileName, Format.ofName?_append hslug format.dot_notMem_ext, format.ofExtension?_ext]

/-- The content of a file that is found by a slug in a format. -/
def contentOf (slug : String) (format : Format) (bytes : List UInt8) : Content where
  format
  text := textOf bytes
  metadata := (Extraction.ofFile (textOf bytes) (fileName slug format)).metadata

/-- Whether a directory has a file of a slug in any format. -/
def HasFile (dir : Directory) (slug : String) : Prop :=
  ∃ format bytes, dir.find? (fileName slug format) = some (.file bytes)

/-- The content of the first file of a slug in a directory, in the order of formats. -/
structure IsFound (dir : Directory) (slug : String) (x : Content) : Prop where
  exists_file : ∃ bytes, dir.find? (fileName slug x.format) = some (.file bytes) ∧
    x = contentOf slug x.format bytes
  first : ∀ format, format.rank < x.format.rank → ∀ bytes,
    dir.find? (fileName slug format) ≠ some (.file bytes)

theorem findFormat_eq_some_iff_readFile {fs : FileSystem} {path slug : String} {format : Format}
    {x : Content} : findFormat fs path slug format = some x ↔
      ∃ bytes, fs.readFile (Path.join path (fileName slug format)) = .ok bytes ∧
        x = contentOf slug format bytes := by
  rw [findFormat]
  cases fs.readFile (Path.join path (fileName slug format)) with
  | error e => simp
  | ok bytes => simp [contentOf, eq_comm]

section Accessible

variable {fs : FileSystem} {path slug : String} {dir : Directory} (h : Accessible fs path dir)
  (hslug : IsPlainName slug)
include h hslug

theorem readFile_fileName_iff {format : Format} {bytes : List UInt8} :
    fs.readFile (Path.join path (fileName slug format)) = .ok bytes ↔
      dir.find? (fileName slug format) = some (.file bytes) := by
  rw [FileSystem.readFile_join_eq_ok_iff h.read h.wellFormed (isPlainName_fileName hslug format)
    (h.linkFree.find?_ne _)]
  constructor
  · rintro ⟨-, hfile⟩
    exact hfile
  · intro hfile
    obtain ⟨read, hread⟩ := h.readable.files [] _ bytes hfile
      (by rw [ofName?_fileName hslug.ne_empty]; rfl)
    exact ⟨((FileSystem.readFile_entry_iff h.read h.wellFormed hfile).mp hread).1, hfile⟩

theorem findFormat_eq_some_iff {format : Format} {x : Content} :
    findFormat fs path slug format = some x ↔
      ∃ bytes, dir.find? (fileName slug format) = some (.file bytes) ∧
        x = contentOf slug format bytes := by
  simp only [findFormat_eq_some_iff_readFile, readFile_fileName_iff h hslug]

theorem findFormat_eq_none_iff {format : Format} :
    findFormat fs path slug format = none ↔
      ∀ bytes, dir.find? (fileName slug format) ≠ some (.file bytes) := by
  rw [Option.eq_none_iff_forall_ne_some]
  constructor
  · intro hnone bytes hfile
    exact hnone _ ((findFormat_eq_some_iff h hslug).mpr ⟨bytes, hfile, rfl⟩)
  · intro hnone x hx
    obtain ⟨bytes, hfile, -⟩ := (findFormat_eq_some_iff h hslug).mp hx
    exact hnone bytes hfile

/-- What is found in a directory is the content of its first file of the slug. -/
theorem findIn_eq_some_iff {x : Content} : findIn fs path slug = some x ↔ IsFound dir slug x := by
  rw [findIn, findSome?_eq_some_iff_of_pairwise Format.pairwise_rank]
  constructor
  · rintro ⟨format, -, hx, hfirst⟩
    obtain ⟨bytes, hfile, rfl⟩ := (findFormat_eq_some_iff h hslug).mp hx
    refine ⟨⟨bytes, hfile, rfl⟩, fun other hother => ?_⟩
    exact (findFormat_eq_none_iff h hslug).mp (hfirst other other.mem_all hother)
  · rintro ⟨⟨bytes, hfile, hx⟩, hfirst⟩
    have hfound := (findFormat_eq_some_iff h hslug).mpr ⟨bytes, hfile, hx⟩
    refine ⟨x.format, x.format.mem_all, hfound, fun other _ hother => ?_⟩
    exact (findFormat_eq_none_iff h hslug).mpr (hfirst other hother)

theorem findIn_eq_none_iff : findIn fs path slug = none ↔ ¬ HasFile dir slug := by
  rw [findIn, List.findSome?_eq_none_iff]
  simp only [findFormat_eq_none_iff h hslug, HasFile, Format.mem_all, forall_const, not_exists,
    ne_eq]

theorem hasFile_iff_exists_isFound : HasFile dir slug ↔ ∃ x, IsFound dir slug x := by
  rw [← not_iff_not, ← findIn_eq_none_iff h hslug, Option.eq_none_iff_forall_ne_some]
  simp only [ne_eq, findIn_eq_some_iff h hslug, not_exists]

end Accessible

/-! ## A category -/

/-- The content of the first file of a slug in the first directory below another that has one. -/
def IsFoundBelow (dir : Directory) (slug : String) (x : Content) : Prop :=
  ∃ name entries, isSafeName name ∧ dir.find? name = some (.directory entries) ∧
    IsFound entries slug x ∧
    ∀ other below, other < name → isSafeName other → dir.find? other = some (.directory below) →
      ¬ HasFile below slug

/-- The directories that are searched below a category, in their order. -/
def searched (dir : Directory) : List String := (sortNames dir.directories).filter isSafeName

theorem pairwise_searched {dir : Directory} (hwf : dir.WellFormed) :
    (searched dir).Pairwise (· < ·) :=
  (pairwise_sortNames (nodup_directories hwf)).filter _

theorem mem_searched_iff {dir : Directory} (hwf : dir.WellFormed) {name : String} :
    name ∈ searched dir ↔
      isSafeName name ∧ ∃ entries, dir.find? name = some (.directory entries) := by
  rw [searched, List.mem_filter, mem_sortNames, mem_directories_iff hwf, and_comm]

section Names

variable (catalog : Catalog) (fs : FileSystem) {category slug : String}

theorem find_eq_none_of_not_isSafeName {subcategory : Option String}
    (h : ¬ (isSafeName category ∧ isSafeName slug ∧ subcategory.all isSafeName)) :
    catalog.find fs category slug subcategory = .ok none := by
  unfold find
  rw [if_pos]
  rwa [Bool.not_eq_true', Bool.eq_false_iff, ne_eq, Bool.and_eq_true, Bool.and_eq_true, and_assoc]

theorem find_none_eq_match (hcategory : isSafeName category) (hslug : isSafeName slug) :
    catalog.find fs category slug none =
      match findIn fs (Path.join catalog.root category) slug with
      | some content => .ok (some content)
      | none => ((fs.readDirectory (Path.join catalog.root category)).map searched).map
        (List.findSome? fun name =>
          findIn fs (Path.join (Path.join catalog.root category) name) slug) := by
  rw [find, hcategory, hslug]
  cases findIn fs (Path.join catalog.root category) slug with
  | some content => rfl
  | none => cases fs.readDirectory (Path.join catalog.root category) <;> rfl

end Names

theorem find_some_eq (catalog : Catalog) (fs : FileSystem) (category slug name : String) :
    catalog.find fs category slug (some name) =
      .ok (if isSafeName category ∧ isSafeName slug ∧ isSafeName name then
        findIn fs (Path.join (Path.join catalog.root category) name) slug else none) := by
  rw [find]
  simp only [Option.all_some, Bool.not_eq_true', Bool.eq_false_iff, ne_eq, Bool.and_eq_true,
    and_assoc]
  split <;> simp [*]

section Find

variable {catalog : Catalog} {fs : FileSystem} {category slug : String} {dir : Directory}
  (h : Accessible fs (Path.join catalog.root category) dir)
include h

theorem find_some_eq_ok_some_iff {name : String} {x : Content} :
    catalog.find fs category slug (some name) = .ok (some x) ↔
      (isSafeName category ∧ isSafeName slug ∧ isSafeName name) ∧
        ∃ entries, dir.find? name = some (.directory entries) ∧ IsFound entries slug x := by
  rw [find_some_eq, Except.ok.injEq, Option.ite_none_right_eq_some]
  refine and_congr_right fun ⟨_, hslug, hname⟩ => ?_
  have hplain := (isSafeName_iff.mp hslug).1
  have hname := (isSafeName_iff.mp hname).1
  constructor
  · intro hx
    obtain ⟨format, hformat⟩ := List.exists_of_findSome?_eq_some hx
    obtain ⟨bytes, hread, -⟩ := findFormat_eq_some_iff_readFile.mp hformat.2
    -- A file was read, so the path before its name leads to a directory.
    have hpath := FileSystem.ne_empty_of_readDirectory h.read
    obtain ⟨entries, hentries⟩ := FileSystem.exists_readDirectory_of_readFile_join
      (Path.join_ne_empty hpath hname.no_separator) (isPlainName_fileName hplain format) hread
    have hfind := h.find?_eq_of_readDirectory hname hentries
    exact ⟨entries, hfind, (findIn_eq_some_iff (h.below hfind) hplain).mp hx⟩
  · rintro ⟨entries, hfind, hx⟩
    exact (findIn_eq_some_iff (h.below hfind) hplain).mpr hx

theorem findSome?_searched_eq_some_iff (hslug : IsPlainName slug) {x : Content} :
    ((searched dir).findSome? fun name =>
      findIn fs (Path.join (Path.join catalog.root category) name) slug) = some x ↔
      IsFoundBelow dir slug x := by
  rw [findSome?_eq_some_iff_of_pairwise (k := id) (pairwise_searched h.wellFormed)]
  simp only [mem_searched_iff h.wellFormed, id_eq]
  constructor
  · rintro ⟨name, ⟨hname, entries, hentries⟩, hx, hleast⟩
    refine ⟨name, entries, hname, hentries, (findIn_eq_some_iff (h.below hentries) hslug).mp hx, ?_⟩
    intro other below hlt hother hbelow
    exact (findIn_eq_none_iff (h.below hbelow) hslug).mp (hleast other ⟨hother, below, hbelow⟩ hlt)
  · rintro ⟨name, entries, hname, hentries, hx, hleast⟩
    refine ⟨name, ⟨hname, entries, hentries⟩,
      (findIn_eq_some_iff (h.below hentries) hslug).mpr hx, ?_⟩
    rintro other ⟨hother, below, hbelow⟩ hlt
    exact (findIn_eq_none_iff (h.below hbelow) hslug).mpr (hleast other below hlt hother hbelow)

theorem find_none_eq (hcategory : isSafeName category) (hslug : isSafeName slug) :
    catalog.find fs category slug none =
      .ok ((findIn fs (Path.join catalog.root category) slug).or
        ((searched dir).findSome? fun name =>
          findIn fs (Path.join (Path.join catalog.root category) name) slug)) := by
  rw [find_none_eq_match catalog fs hcategory hslug, h.read]
  cases findIn fs (Path.join catalog.root category) slug <;> rfl

theorem find_none_eq_ok_some_iff {x : Content} :
    catalog.find fs category slug none = .ok (some x) ↔
      (isSafeName category ∧ isSafeName slug) ∧
        (IsFound dir slug x ∨ ¬ HasFile dir slug ∧ IsFoundBelow dir slug x) := by
  by_cases hsafe : isSafeName category ∧ isSafeName slug
  · have hplain := (isSafeName_iff.mp hsafe.2).1
    rw [find_none_eq h hsafe.1 hsafe.2, Except.ok.injEq, Option.or_eq_some_iff,
      findIn_eq_some_iff h hplain, findIn_eq_none_iff h hplain,
      findSome?_searched_eq_some_iff h hplain, and_iff_right hsafe]
  · have hfind : catalog.find fs category slug none = .ok none :=
      find_eq_none_of_not_isSafeName catalog fs fun h => hsafe ⟨h.1, h.2.1⟩
    simp [hfind, hsafe]

theorem exists_isFoundBelow_iff (hslug : IsPlainName slug) :
    (∃ x, IsFoundBelow dir slug x) ↔ ∃ name entries, isSafeName name ∧
      dir.find? name = some (.directory entries) ∧ HasFile entries slug := by
  constructor
  · rintro ⟨x, name, entries, hname, hentries, hx, -⟩
    exact ⟨name, entries, hname, hentries,
      (hasFile_iff_exists_isFound (h.below hentries) hslug).mpr ⟨x, hx⟩⟩
  · rintro ⟨name, entries, hname, hentries, hfile⟩
    simp only [← findSome?_searched_eq_some_iff h hslug]
    rw [← Option.ne_none_iff_exists', ne_eq, List.findSome?_eq_none_iff]
    intro hnone
    have hmem := (mem_searched_iff h.wellFormed).mpr ⟨hname, entries, hentries⟩
    exact (findIn_eq_none_iff (h.below hentries) hslug).mp (hnone name hmem) hfile

theorem exists_find_eq_ok (hcategory : isSafeName category) (hslug : isSafeName slug)
    (subcategory : Option String) : ∃ r, catalog.find fs category slug subcategory = .ok r := by
  cases subcategory with
  | some name => exact ⟨_, find_some_eq catalog fs category slug name⟩
  | none => exact ⟨_, find_none_eq h hcategory hslug⟩

theorem find_of_isFound {subcategory : Option String} {found : Directory} {x : Content}
    (hcategory : isSafeName category) (hslug : isSafeName slug)
    (hsubcategory : subcategory.all isSafeName)
    (hfound : dir.below? subcategory.toList = some found) (hx : IsFound found slug x) :
    catalog.find fs category slug subcategory = .ok (some x) := by
  cases subcategory with
  | some name =>
    obtain ⟨entries, hname, hentries⟩ := Directory.below?_cons_eq_some_iff.mp hfound
    cases hentries
    exact (find_some_eq_ok_some_iff h).mpr ⟨⟨hcategory, hslug, hsubcategory⟩, found, hname, hx⟩
  | none =>
    cases hfound
    exact (find_none_eq_ok_some_iff h).mpr ⟨⟨hcategory, hslug⟩, Or.inl hx⟩

/-- Where a lookup finds a file of a slug: in the subcategory if one is given, and else in the
category or, where that has no such file, in a directory of it. -/
def IsPlace (dir : Directory) (slug : String) (subcategory : Option String)
    (above : List String) : Prop :=
  above = subcategory.toList ∨ subcategory = none ∧ ¬ HasFile dir slug ∧ ∃ name, above = [name]

theorem exists_place_of_find {subcategory : Option String} {x : Content}
    (hfind : catalog.find fs category slug subcategory = .ok (some x)) :
    isSafeName slug ∧ ∃ above found, dir.below? above = some found ∧ IsFound found slug x ∧
      IsPlace dir slug subcategory above := by
  have hbelow {name : String} {entries : Directory}
      (hname : dir.find? name = some (.directory entries)) : dir.below? [name] = some entries :=
    Directory.below?_cons_eq_some_iff.mpr ⟨entries, hname, rfl⟩
  cases subcategory with
  | some name =>
    obtain ⟨⟨-, hslug, -⟩, entries, hname, hx⟩ := (find_some_eq_ok_some_iff h).mp hfind
    exact ⟨hslug, [name], entries, hbelow hname, hx, Or.inl rfl⟩
  | none =>
    obtain ⟨⟨-, hslug⟩, hx | ⟨hno, name, entries, -, hname, hx, -⟩⟩ :=
      (find_none_eq_ok_some_iff h).mp hfind
    · exact ⟨hslug, [], dir, rfl, hx, Or.inl rfl⟩
    · exact ⟨hslug, [name], entries, hbelow hname, hx, Or.inr ⟨rfl, hno, name, rfl⟩⟩

end Find

end Catalog

end Folio
