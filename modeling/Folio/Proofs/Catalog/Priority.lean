import Folio.Proofs.Catalog.Lookup
import Folio.Proofs.Catalog.Locality
import Folio.Proofs.FileSystem.Enumeration
import Folio.Proofs.Text.Order

/-!
# The order in which files are tried

A lookup tries files in a fixed order: directory by directory, and in each directory format by
format. The first that is a file decides what is found. Links are followed on the way to a file; the
directories below a category are real ones.

Main definitions:

* `IsSearched`: the directories in which a lookup searches, in their order.
* `Candidate`, `candidates`: the files that a lookup tries, in their order.
* `IsFirstFile`: the content of the first candidate that is a file.

Main result:

* `find_isFirstFile`: what a lookup finds, when it finds nothing and when it fails, on every disk;
  the answer does not depend on the order in which directories are enumerated.
-/

namespace Folio.Catalog

/-! ## Candidates -/

/-- The directories in which a lookup searches a category at a path, in their order: the subcategory
if one is given. Otherwise the category and then, where it can be listed, the real directories in it
whose names have no backslash, by the bytes of their names. -/
inductive IsSearched (fs : FileSystem) (path : String) : Option String → List String → Prop
  | subcategory (name : String) : IsSearched fs path (some name) [Path.join path name]
  | listed {dir : Directory} {names : List String} (hdir : fs.readDirectory path = .ok dir)
      (mem_iff : ∀ name, name ∈ names ↔
        '\\' ∉ name.toList ∧ ∃ entries, (name, .directory entries) ∈ dir)
      (ascending : names.Pairwise fun a b => Text.bytes a < Text.bytes b) :
      IsSearched fs path none (path :: names.map (Path.join path))
  | unlisted {e : FileError} (hdir : fs.readDirectory path = .error e) :
      IsSearched fs path none [path]

/-- A file that a lookup tries: the directory and the format. -/
structure Candidate where
  base : String
  format : Format

/-- The path of a candidate for a slug. -/
def Candidate.path (slug : String) (candidate : Candidate) : String :=
  Path.join candidate.base (fileName slug candidate.format)

/-- The files that a lookup tries in directories, in their order. -/
def candidates (bases : List String) : List Candidate :=
  bases.flatMap fun base => [⟨base, .markdown⟩, ⟨base, .json⟩, ⟨base, .jsonld⟩]

/-- The content of the first candidate that is a file. -/
def IsFirstFile (fs : FileSystem) (slug : String) (tried : List Candidate) (x : Content) : Prop :=
  ∃ before candidate after bytes, tried = before ++ candidate :: after ∧
    (∀ other ∈ before, ¬ fs.isFile (other.path slug)) ∧
    fs.readFile (candidate.path slug) = .ok bytes ∧ x = contentOf slug candidate.format bytes

section Candidates

variable {fs : FileSystem} {slug : String}

theorem findFormat_eq_none_iff_isFile {base : String} {format : Format} :
    findFormat fs base slug format = none ↔ ¬ fs.isFile (Candidate.path slug ⟨base, format⟩) := by
  rw [Option.eq_none_iff_forall_ne_some, FileSystem.isFile_iff]
  simp only [ne_eq, findFormat_eq_some_iff_readFile, not_exists, not_and]
  constructor
  · intro hnone bytes hread
    exact hnone _ bytes hread rfl
  · intro hnone x bytes hread
    exact absurd hread (hnone bytes)

theorem findSome?_findIn (bases : List String) :
    (bases.findSome? fun base => findIn fs base slug) =
      (candidates bases).findSome? fun candidate =>
        findFormat fs candidate.base slug candidate.format := by
  induction bases with
  | nil => rfl
  | cons base bases ih =>
    have hbase : findIn fs base slug = (candidates [base]).findSome? fun candidate =>
        findFormat fs candidate.base slug candidate.format := rfl
    have happend : candidates (base :: bases) = candidates [base] ++ candidates bases := rfl
    rw [happend, List.findSome?_append, ← hbase, ← ih, List.findSome?_cons]
    cases findIn fs base slug <;> rfl

theorem findSome?_findIn_eq_some_iff {bases : List String} {x : Content} :
    (bases.findSome? fun base => findIn fs base slug) = some x ↔
      IsFirstFile fs slug (candidates bases) x := by
  rw [findSome?_findIn, List.findSome?_eq_some_iff]
  simp only [findFormat_eq_none_iff_isFile, findFormat_eq_some_iff_readFile]
  constructor
  · rintro ⟨before, candidate, after, htried, ⟨bytes, hread, hx⟩, hbefore⟩
    exact ⟨before, candidate, after, bytes, htried, hbefore, hread, hx⟩
  · rintro ⟨before, candidate, after, bytes, htried, hbefore, hread, hx⟩
    exact ⟨before, candidate, after, htried, ⟨bytes, hread, hx⟩, hbefore⟩

theorem findSome?_findIn_eq_none_iff {bases : List String} :
    (bases.findSome? fun base => findIn fs base slug) = none ↔
      ∀ candidate ∈ candidates bases, ¬ fs.isFile (candidate.path slug) := by
  rw [findSome?_findIn, List.findSome?_eq_none_iff]
  simp only [findFormat_eq_none_iff_isFile]

end Candidates

/-! ## The directories that are searched -/

section Searched

variable {fs : FileSystem} {path : String} {dir : Directory}

theorem mem_searched_iff_of_wellFormed (hwf : dir.WellFormed) {name : String} :
    name ∈ searched dir ↔ '\\' ∉ name.toList ∧ ∃ entries, (name, .directory entries) ∈ dir := by
  simp only [mem_searched_iff hwf, ← hwf.find?_eq_some_iff]
  constructor
  · rintro ⟨hsafe, hname⟩
    exact ⟨(isSafeName_iff.mp hsafe).2, hname⟩
  · rintro ⟨hback, entries, hname⟩
    have hplain := (hwf.isEntryName hname).toIsPlainName
    exact ⟨isSafeName_iff.mpr ⟨hplain, hback⟩, entries, hname⟩

theorem IsSearched.of_readDirectory (hwf : dir.WellFormed)
    (hdir : fs.readDirectory path = .ok dir) :
    IsSearched fs path none (path :: (searched dir).map (Path.join path)) :=
  .listed hdir (fun _ => mem_searched_iff_of_wellFormed hwf)
    ((pairwise_searched hwf).imp Text.bytes_lt_of_lt)

/-- The directories that are searched are determined. -/
theorem IsSearched.eq {subcategory : Option String} {bases other : List String}
    (h : IsSearched fs path subcategory bases) (h' : IsSearched fs path subcategory other) :
    other = bases := by
  cases h with
  | subcategory name =>
    cases h'
    rfl
  | @listed dir names hdir hmem hascending =>
    cases h' with
    | @listed dir' names' hdir' hmem' hascending' =>
      cases hdir.symm.trans hdir'
      have hnames : names' = names := by
        have hlt {names : List String} (h : names.Pairwise fun a b => Text.bytes a < Text.bytes b) :
            names.Pairwise (· < ·) := h.imp Text.lt_iff_bytes_lt.mpr
        refine List.Perm.eq_of_pairwise (fun a b _ _ hab hba => absurd hab hba.not_gt)
          (hlt hascending') (hlt hascending) ?_
        rw [List.perm_ext_iff_of_nodup ((hlt hascending').imp ne_of_lt)
          ((hlt hascending).imp ne_of_lt)]
        intro name
        rw [hmem, hmem']
      rw [hnames]
    | unlisted hdir' => cases hdir.symm.trans hdir'
  | unlisted hdir =>
    cases h' with
    | listed hdir' => cases hdir.symm.trans hdir'
    | unlisted => rfl

end Searched

/-! ## What a lookup finds -/

section Find

variable (catalog : Catalog) {fs : FileSystem} {category slug : String}
  (hcategory : isSafeName category) (hslug : isSafeName slug)
include hcategory hslug

theorem find_none_of_listed {dir : Directory}
    (hdir : fs.readDirectory (Path.join catalog.root category) = .ok dir) :
    catalog.find fs category slug none =
      .ok ((Path.join catalog.root category ::
        (searched dir).map (Path.join (Path.join catalog.root category))).findSome?
          fun base => findIn fs base slug) := by
  rw [find_none_eq_match _ _ hcategory hslug, hdir, List.findSome?_cons, List.findSome?_map]
  cases findIn fs (Path.join catalog.root category) slug <;> rfl

theorem find_none_of_unlisted {e : FileError}
    (hdir : fs.readDirectory (Path.join catalog.root category) = .error e) :
    catalog.find fs category slug none =
      match [Path.join catalog.root category].findSome? fun base => findIn fs base slug with
      | some x => .ok (some x)
      | none => .error e := by
  rw [find_none_eq_match _ _ hcategory hslug, hdir, List.findSome?_singleton]
  rfl

theorem find_some_of_isSafeName {name : String} (hname : isSafeName name) :
    catalog.find fs category slug (some name) =
      .ok ([Path.join (Path.join catalog.root category) name].findSome?
        fun base => findIn fs base slug) := by
  rw [find_some_eq, if_pos ⟨hcategory, hslug, hname⟩, List.findSome?_singleton]

/-- A lookup does not depend on the order in which directories are enumerated. -/
theorem find_of_reordered {fs' : FileSystem} (h : fs.Reordered fs') (hdisk : fs.root.WellFormed)
    {subcategory : Option String} (hsubcategory : subcategory.all isSafeName) :
    catalog.find fs' category slug subcategory = catalog.find fs category slug subcategory := by
  have hfound : (fun base => findIn fs' base slug) = fun base => findIn fs base slug := by
    funext base
    have hformat : findFormat fs' base slug = findFormat fs base slug := by
      funext format
      rw [findFormat, findFormat, h.readFile_eq hdisk]
    rw [findIn, findIn, hformat]
  cases subcategory with
  | some name =>
    rw [find_some_of_isSafeName _ hcategory hslug hsubcategory,
      find_some_of_isSafeName _ hcategory hslug hsubcategory, hfound]
  | none =>
    rcases h.readDirectory_cases hdisk (Path.join catalog.root category) with
      ⟨e, he, he'⟩ | ⟨dir, dir', hdir, hdir', hdirs⟩
    · rw [find_none_of_unlisted _ hcategory hslug he, find_none_of_unlisted _ hcategory hslug he',
        hfound]
    · have hwf := hdisk.of_readDirectory hdir
      have hsearched : searched dir' = searched dir := by
        rw [searched, searched,
          (hdirs.sameEntries hwf).sortNames_directories hwf (hdirs.wellFormed hwf)]
      rw [find_none_of_listed _ hcategory hslug hdir, find_none_of_listed _ hcategory hslug hdir',
        hsearched, hfound]

end Find

end Folio.Catalog

namespace Folio

open Catalog in
/-- A lookup of safe names finds the content of the first candidate that is a file. It finds nothing
if there is none and a subcategory was given or the category can be listed; it fails, with the fault
of the category, exactly if no subcategory was given, the category itself has no candidate that is a
file and cannot be listed. The order in which directories are enumerated changes nothing. -/
theorem find_isFirstFile (catalog : Catalog) {fs : FileSystem} (hdisk : fs.root.WellFormed)
    {category slug : String} {subcategory : Option String} (hcategory : isSafeName category)
    (hslug : isSafeName slug) (hsubcategory : subcategory.all isSafeName) :
    ∃ bases, (∀ other, IsSearched fs (Path.join catalog.root category) subcategory other ↔
        other = bases) ∧
      (∀ x, catalog.find fs category slug subcategory = .ok (some x) ↔
        IsFirstFile fs slug (candidates bases) x) ∧
      (catalog.find fs category slug subcategory = .ok none ↔
        (∀ candidate ∈ candidates bases, ¬ fs.isFile (candidate.path slug)) ∧
          (subcategory.isSome ∨
            ∃ dir, fs.readDirectory (Path.join catalog.root category) = .ok dir)) ∧
      (∀ e, catalog.find fs category slug subcategory = .error e ↔ subcategory = none ∧
        (∀ candidate ∈ candidates [Path.join catalog.root category],
          ¬ fs.isFile (candidate.path slug)) ∧
        fs.readDirectory (Path.join catalog.root category) = .error e ∧
        e.path = Path.join catalog.root category) ∧
      ∀ fs', fs.Reordered fs' →
        catalog.find fs' category slug subcategory =
          catalog.find fs category slug subcategory := by
  have hreordered (fs' : FileSystem) (h : fs.Reordered fs') :=
    find_of_reordered catalog hcategory hslug h hdisk hsubcategory
  have hunique {bases : List String}
      (h : IsSearched fs (Path.join catalog.root category) subcategory bases)
      (other : List String) :
      IsSearched fs (Path.join catalog.root category) subcategory other ↔ other = bases :=
    ⟨h.eq, fun heq => heq ▸ h⟩
  cases subcategory with
  | some name =>
    have hfind : catalog.find fs category slug (some name) = _ :=
      find_some_of_isSafeName catalog hcategory hslug hsubcategory
    refine ⟨_, hunique (.subcategory name), ?_, ?_, ?_, hreordered⟩
    · intro x
      rw [hfind, Except.ok.injEq, findSome?_findIn_eq_some_iff]
    · rw [hfind, Except.ok.injEq, findSome?_findIn_eq_none_iff]
      simp
    · simp [hfind]
  | none =>
    cases hdir : fs.readDirectory (Path.join catalog.root category) with
    | ok dir =>
      have hfind := find_none_of_listed catalog hcategory hslug hdir
      refine ⟨_, hunique (.of_readDirectory (hdisk.of_readDirectory hdir) hdir), ?_, ?_, ?_,
        hreordered⟩
      · intro x
        rw [hfind, Except.ok.injEq, findSome?_findIn_eq_some_iff]
      · rw [hfind, Except.ok.injEq, findSome?_findIn_eq_none_iff]
        simp
      · simp [hfind]
    | error e =>
      have hfind := find_none_of_unlisted catalog hcategory hslug hdir
      refine ⟨_, hunique (.unlisted hdir), ?_, ?_, ?_, hreordered⟩
      · intro x
        rw [hfind, ← findSome?_findIn_eq_some_iff]
        split <;> simp [*]
      · rw [hfind, ← findSome?_findIn_eq_none_iff]
        split <;> simp [*]
      · intro e'
        have hpath := FileSystem.path_of_readDirectory hdir
        rw [hfind, ← findSome?_findIn_eq_none_iff]
        split
        · simp [*]
        · simp only [*, true_and, Except.error.injEq]
          constructor
          · rintro rfl
            exact ⟨rfl, hpath⟩
          · rintro ⟨rfl, -⟩
            rfl

/-- A category of two directories, the first of which has only a link to a file of the second. -/
def linkedEntries : Directory :=
  [("b", .directory [("x.md", .file [35, 32, 66])]),
    ("a", .directory [("x.json", .link "../b/x.md")])]

/-- A catalog of that category. -/
def linkedTree : Directory := [("identity", .directory linkedEntries)]

section Linked

open FileSystem

theorem readDirectory_linkedTree :
    (holding "specs" linkedTree).readDirectory (Path.join "specs" "identity") =
      .ok linkedEntries :=
  (readDirectory_entry_iff (readDirectory_holding_self (by decide) linkedTree) (by decide) rfl).mpr
    ⟨by decide, rfl⟩

theorem readDirectory_below_linkedTree :
    (holding "specs" linkedTree).readDirectory (Path.join (Path.join "specs" "identity") "a") =
      .ok [("x.json", .link "../b/x.md")] :=
  (readDirectory_entry_iff readDirectory_linkedTree (by decide) rfl).mpr ⟨by decide, rfl⟩

theorem readFile_linkedTree :
    (holding "specs" linkedTree).readFile
        (Path.join (Path.join (Path.join "specs" "identity") "a") "x.json") =
      .ok [35, 32, 66] := by
  have hpath : Path.join (Path.join (Path.join "specs" "identity") "a") "x.json" =
      "specs/identity/a/x.json" := by decide
  have hsteps : steps "specs/identity/a/x.json" = ["specs", "identity", "a", "x.json"] := by decide
  have htarget : steps "../b/x.md" = ["..", "b", "x.md"] := by decide
  rw [readFile_eq_ok_iff, locate_eq_ok_iff, hpath, hsteps]
  refine ⟨by decide, by decide, by decide, ?_⟩
  rw [follow_directory (by decide) (by decide) (by decide) rfl,
    follow_directory (by decide) (by decide) (by decide) rfl,
    follow_directory (by decide) (by decide) (by decide) rfl, linkLimit,
    follow_link_succ (by decide) (by decide) (by decide) rfl, if_neg (by decide), htarget,
    List.cons_append, follow_above, List.cons_append,
    follow_directory (by decide) (by decide) (by decide) rfl, List.cons_append,
    follow_file (by decide) (by decide) (by decide) rfl]
  rfl

end Linked

theorem find_isFirstFile_linkedTree :
    (FileSystem.holding "specs" linkedTree).root.WellFormed ∧ isSafeName "identity" ∧
      isSafeName "x" ∧ (none : Option String).all isSafeName ∧
      (Catalog.ofRoot "specs").find (.holding "specs" linkedTree) "identity" "x" none =
        .ok (some (Catalog.contentOf "x" .json [35, 32, 66])) := by
  have hdisk : (FileSystem.holding "specs" linkedTree).root.WellFormed := by decide
  have hslug : isSafeName "x" := by decide
  obtain ⟨bases, hbases, hfound, -⟩ := find_isFirstFile (Catalog.ofRoot "specs") hdisk
    (by decide : isSafeName "identity") hslug (by decide : (none : Option String).all isSafeName)
  refine ⟨hdisk, by decide, hslug, by decide, (hfound _).mpr ?_⟩
  have hmem (name : String) : name ∈ ["a", "b"] ↔
      '\\' ∉ name.toList ∧ ∃ entries, (name, .directory entries) ∈ linkedEntries := by
    simp only [linkedEntries, List.mem_cons, Prod.mk.injEq, List.not_mem_nil, or_false]
    constructor
    · rintro (rfl | rfl)
      · exact ⟨by decide, _, Or.inr ⟨rfl, rfl⟩⟩
      · exact ⟨by decide, _, Or.inl ⟨rfl, rfl⟩⟩
    · rintro ⟨-, entries, ⟨rfl, -⟩ | ⟨rfl, -⟩⟩
      · exact Or.inr rfl
      · exact Or.inl rfl
  have hascending : ["a", "b"].Pairwise fun a b => Text.bytes a < Text.bytes b := by
    simp [Text.bytes_lt_of_lt (by decide : "a" < "b")]
  obtain rfl := (hbases _).mp (.listed readDirectory_linkedTree hmem hascending)
  have hplain := (isSafeName_iff.mp hslug).1
  have hnone (format : Format) := FileSystem.not_isFile_join readDirectory_linkedTree
    (Catalog.isPlainName_fileName hplain format) (by cases format <;> rfl)
  have hmarkdown := FileSystem.not_isFile_join readDirectory_below_linkedTree
    (Catalog.isPlainName_fileName hplain .markdown) rfl
  refine ⟨[⟨_, .markdown⟩, ⟨_, .json⟩, ⟨_, .jsonld⟩, ⟨_, .markdown⟩], ⟨_, .json⟩, _, _, rfl, ?_,
    readFile_linkedTree, rfl⟩
  simp only [List.forall_mem_cons]
  exact ⟨hnone .markdown, hnone .json, hnone .jsonld, hmarkdown, by simp⟩

end Folio
