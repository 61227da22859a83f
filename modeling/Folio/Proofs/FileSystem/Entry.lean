import Folio.Proofs.FileSystem.Tree
import Folio.Proofs.Path

/-!
# Entries by their paths

The path of an entry is the path of its directory and its name. Reading that path reads the entry,
unless the entry is a link or the path is too long.

Main definitions:

* `Position.enter?`: what the name of an entry leads to from a position.
* `FileSystem.holding`: a disk with nothing but one directory at its root.

Results:

* `follow_append`: a path that leads to a directory can be followed on from there, and no other.
* `readFile_join_eq_ok_iff`, `readDirectory_join_eq_ok_iff`: what is read by the path of an entry
  is the entry, and it is read iff the path is short enough.
* `readDirectory_holding`: separators after the name of a directory do not change what is read.
-/

namespace Folio

namespace FileSystem

theorem steps_join {dir name : String} (hdir : dir ≠ "") (hname : IsPlainName name) :
    ∃ before after, (∀ s ∈ after, s = ".") ∧ steps dir = before ++ after ∧
      steps (Path.join dir name) = before ++ [name] := by
  obtain ⟨base, hbase, hjoin⟩ := Path.toList_join hdir hname.no_separator
  let before := ((base.splitOn '/').map String.ofList).filter (· ≠ "")
  have hsplit : (Path.join dir name).toList.splitOn '/' = base.splitOn '/' ++ [name.toList] := by
    rw [hjoin, List.splitOn_append_cons_self, List.splitOn_eq_singleton hname.no_separator]
  refine ⟨before, (if ((dir.toList.splitOn '/').map String.ofList).getLast? == some "" then ["."]
    else []), ?_, ?_, ?_⟩
  · intro s hs
    split at hs
    · exact List.mem_singleton.mp hs
    · cases hs
  · rw [steps]
    congr 1
    rcases hbase with hbase | hbase
    · rw [hbase]
    · rw [hbase, List.splitOn_append_cons_self, List.splitOn_nil]
      simp [before]
  · rw [steps, hsplit]
    simp [before, hname.ne_empty]

theorem follow_here (top spot : Position) (links : Nat) (rest : List String) :
    follow top links spot ("." :: rest) = follow top links spot rest := by
  rw [follow, if_pos rfl]

theorem follow_above (top spot : Position) (links : Nat) (rest : List String) :
    follow top links spot (".." :: rest) = follow top links spot.up rest := by
  rw [follow, if_neg (by decide), if_pos rfl]

section Named

variable {top spot : Position} {name : String} (hhere : name ≠ ".") (habove : name ≠ "..")
include hhere habove

theorem follow_tooLong (hsize : nameLimit < name.utf8ByteSize) (links : Nat) (rest : List String) :
    follow top links spot (name :: rest) = .error .nameTooLong := by
  rw [follow, if_neg hhere, if_neg habove, if_pos hsize]

variable (hsize : name.utf8ByteSize ≤ nameLimit)
include hsize

theorem follow_none (hname : spot.here.find? name = none) (links : Nat) (rest : List String) :
    follow top links spot (name :: rest) = .error .notFound := by
  rw [follow, if_neg hhere, if_neg habove, if_neg (Nat.not_lt.mpr hsize), hname]

theorem follow_file {bytes : List UInt8} (hname : spot.here.find? name = some (.file bytes))
    (links : Nat) (rest : List String) :
    follow top links spot (name :: rest) =
      if rest.isEmpty then .ok (.file bytes) else .error .notDirectory := by
  rw [follow, if_neg hhere, if_neg habove, if_neg (Nat.not_lt.mpr hsize), hname]

theorem follow_directory {entries : Directory}
    (hname : spot.here.find? name = some (.directory entries)) (links : Nat)
    (rest : List String) :
    follow top links spot (name :: rest) = follow top links (spot.down name entries) rest := by
  rw [follow, if_neg hhere, if_neg habove, if_neg (Nat.not_lt.mpr hsize), hname]

theorem follow_link_zero {target : String} (hname : spot.here.find? name = some (.link target))
    (rest : List String) : follow top 0 spot (name :: rest) = .error .tooManyLinks := by
  rw [follow, if_neg hhere, if_neg habove, if_neg (Nat.not_lt.mpr hsize), hname]

theorem follow_link_succ {target : String} (hname : spot.here.find? name = some (.link target))
    (links : Nat) (rest : List String) :
    follow top (links + 1) spot (name :: rest) =
      follow top links (if Path.isAbsolute target then top else spot) (steps target ++ rest) := by
  rw [follow, if_neg hhere, if_neg habove, if_neg (Nat.not_lt.mpr hsize), hname]

end Named

theorem follow_dots {top spot : Position} {links : Nat} {after : List String}
    (hafter : ∀ s ∈ after, s = ".") : follow top links spot after = .ok (.directory spot) := by
  induction after with
  | nil => rw [follow]
  | cons s after ih =>
    rw [hafter s List.mem_cons_self, follow_here]
    exact ih fun t ht => hafter t (List.mem_cons_of_mem s ht)

theorem eq_nil_of_file {before rest : List String} {bytes : List UInt8} {target : Target}
    (h : (if (before ++ rest).isEmpty then .ok (.file bytes) else .error .notDirectory) =
      (.ok target : Except IoError Target)) : rest = [] ∧ ∃ bytes, target = .file bytes := by
  split at h
  · next hempty =>
    cases h
    exact ⟨(List.append_eq_nil_iff.mp (List.isEmpty_iff.mp hempty)).2, bytes, rfl⟩
  · cases h

/-- Steps lead to a directory, and what comes after them is followed from there, or they lead to
nothing that can be followed on. -/
theorem follow_append (top : Position) (links : Nat) (spot : Position) (before : List String) :
    (∃ position left, ∀ rest,
      follow top links spot (before ++ rest) = follow top left position rest) ∨
    ∀ rest target, follow top links spot (before ++ rest) = .ok target →
      rest = [] ∧ ∃ bytes, target = .file bytes := by
  fun_induction follow top links spot before with
  | case1 links spot => exact Or.inl ⟨spot, links, fun rest => by rw [List.nil_append]⟩
  | case2 links spot before ih =>
    simp only [List.cons_append, follow_here]
    exact ih
  | case3 links spot before _ ih =>
    simp only [List.cons_append, follow_above]
    exact ih
  | case4 links spot name before hhere habove hsize =>
    refine Or.inr fun rest target h => ?_
    rw [List.cons_append, follow_tooLong hhere habove hsize] at h
    cases h
  | case5 links spot name before hhere habove hsize hname =>
    refine Or.inr fun rest target h => ?_
    rw [List.cons_append, follow_none hhere habove (Nat.not_lt.mp hsize) hname] at h
    cases h
  | case6 links spot name before hhere habove hsize bytes hname _ =>
    refine Or.inr fun rest target h => ?_
    rw [List.cons_append, follow_file hhere habove (Nat.not_lt.mp hsize) hname] at h
    exact eq_nil_of_file h
  | case7 links spot name before hhere habove hsize bytes hname _ =>
    refine Or.inr fun rest target h => ?_
    rw [List.cons_append, follow_file hhere habove (Nat.not_lt.mp hsize) hname] at h
    exact eq_nil_of_file h
  | case8 links spot name before hhere habove hsize entries hname ih =>
    simp only [List.cons_append, follow_directory hhere habove (Nat.not_lt.mp hsize) hname]
    exact ih
  | case9 spot name before hhere habove hsize target hname =>
    refine Or.inr fun rest target h => ?_
    rw [List.cons_append, follow_link_zero hhere habove (Nat.not_lt.mp hsize) hname] at h
    cases h
  | case10 spot name before hhere habove hsize target hname links ih =>
    simp only [List.cons_append, Nat.succ_eq_add_one,
      follow_link_succ hhere habove (Nat.not_lt.mp hsize) hname, ← List.append_assoc]
    exact ih

/-! ## Entries by their paths -/

theorem locate_eq_ok_iff {fs : FileSystem} {path : String} {target : Target} :
    fs.locate path = .ok target ↔ '\x00' ∉ path.toList ∧ path ≠ "" ∧
      path.utf8ByteSize < pathLimit ∧
      follow fs.top linkLimit (fs.start path) (steps path) = .ok target := by
  rw [locate]
  split
  · next h => simp_all
  · next hnul =>
    split
    · next hempty => simp_all
    · next hempty =>
      split
      · next h =>
        simp [Nat.not_lt.mpr h]
      · next h =>
        simp only [List.contains_iff_mem] at hnul
        simp only [String.isEmpty_iff] at hempty
        simp [hnul, hempty, Nat.not_le.mp h]

/-- The path of an entry is followed from the directory in which the entry is, or it is none that
can be followed. -/
theorem exists_locate_join_eq {fs : FileSystem} {dir name : String} {position : Position}
    (hdir : fs.locate dir = .ok (.directory position)) (hname : IsPlainName name) :
    ∃ left, fs.locate (Path.join dir name) =
      if '\x00' ∈ name.toList then .error .nulInPath
      else if pathLimit ≤ (Path.join dir name).utf8ByteSize then .error .nameTooLong
      else follow fs.top left position [name] := by
  obtain ⟨hnul, hne, -, hfollow⟩ := locate_eq_ok_iff.mp hdir
  obtain ⟨before, after, hafter, hsteps, hjoin⟩ := steps_join hne hname
  rw [hsteps] at hfollow
  obtain ⟨left, hleft⟩ : ∃ left, ∀ rest, follow fs.top linkLimit (fs.start dir) (before ++ rest) =
      follow fs.top left position rest := by
    rcases follow_append fs.top linkLimit (fs.start dir) before with ⟨spot, left, hleft⟩ | hfile
    · rw [hleft, follow_dots hafter] at hfollow
      cases hfollow
      exact ⟨left, hleft⟩
    · obtain ⟨-, bytes, htarget⟩ := hfile _ _ hfollow
      cases htarget
  have hnonempty : (Path.join dir name).isEmpty = false := by
    rw [← Bool.not_eq_true, String.isEmpty_iff]
    exact Path.join_ne_empty hne hname.no_separator
  have hnul_join : '\x00' ∈ (Path.join dir name).toList ↔ '\x00' ∈ name.toList := by
    rw [Path.mem_toList_join hne hname.no_separator (by decide)]
    simp [hnul]
  refine ⟨left, ?_⟩
  rw [locate, start, Path.isAbsolute_join hne hname.no_separator, hjoin, ← start, hleft]
  simp only [List.contains_iff_mem, hnul_join, hnonempty, Bool.false_eq_true, if_false]

theorem locate_join_eq_ok_iff {fs : FileSystem} {dir name : String} {position : Position}
    (hdir : fs.locate dir = .ok (.directory position)) (hname : IsPlainName name) :
    ∃ left, ∀ target, fs.locate (Path.join dir name) = .ok target ↔
      '\x00' ∉ name.toList ∧ (Path.join dir name).utf8ByteSize < pathLimit ∧
        follow fs.top left position [name] = .ok target := by
  obtain ⟨left, hjoin⟩ := exists_locate_join_eq hdir hname
  refine ⟨left, fun target => ?_⟩
  rw [hjoin]
  split
  · next hnul => simp [hnul]
  · next hnul =>
    split
    · next hsize => simp [Nat.not_lt.mpr hsize]
    · next hsize => simp [hnul, Nat.not_le.mp hsize]

theorem exists_position_of_locate_join {fs : FileSystem} {dir name : String} {target : Target}
    (hdir : dir ≠ "") (hname : IsPlainName name)
    (h : fs.locate (Path.join dir name) = .ok target) :
    ∃ position, fs.locate dir = .ok (.directory position) := by
  obtain ⟨hnul, -, hsize, hfollow⟩ := locate_eq_ok_iff.mp h
  obtain ⟨before, after, hafter, hsteps, hjoin⟩ := steps_join hdir hname
  rw [start, Path.isAbsolute_join hdir hname.no_separator, ← start, hjoin] at hfollow
  rcases follow_append fs.top linkLimit (fs.start dir) before with ⟨position, left, hleft⟩ | hfile
  · refine ⟨position, locate_eq_ok_iff.mpr ⟨?_, hdir, ?_, ?_⟩⟩
    · intro hmem
      exact hnul ((Path.mem_toList_join hdir hname.no_separator (by decide)).mpr (Or.inl hmem))
    · exact Nat.lt_of_le_of_lt (Path.size_le_join hname.no_separator) hsize
    · rw [hsteps, hleft, follow_dots hafter]
  · exact absurd (hfile _ _ hfollow).1 (List.cons_ne_nil name [])

theorem readFile_eq_ok_iff {fs : FileSystem} {path : String} {bytes : List UInt8} :
    fs.readFile path = .ok bytes ↔ fs.locate path = .ok (.file bytes) := by
  rw [readFile]
  split <;> simp [*]

theorem isFile_iff {fs : FileSystem} {path : String} :
    fs.isFile path ↔ ∃ bytes, fs.readFile path = .ok bytes := by
  simp only [readFile_eq_ok_iff]
  rw [isFile]
  split
  · next bytes h => simp [h]
  · next h => simpa using h

theorem readDirectory_eq_ok_iff {fs : FileSystem} {path : String} {dir : Directory} :
    fs.readDirectory path = .ok dir ↔
      ∃ position, fs.locate path = .ok (.directory position) ∧ position.here = dir := by
  rw [readDirectory]
  split <;> simp [*]

theorem path_of_readDirectory {fs : FileSystem} {path : String} {e : FileError}
    (h : fs.readDirectory path = .error e) : e.path = path := by
  rw [readDirectory] at h
  split at h <;> cases h <;> rfl

theorem ne_empty_of_readDirectory {fs : FileSystem} {path : String} {dir : Directory}
    (h : fs.readDirectory path = .ok dir) : path ≠ "" := by
  obtain ⟨position, hposition, -⟩ := readDirectory_eq_ok_iff.mp h
  exact (locate_eq_ok_iff.mp hposition).2.1

/-- A path that leads anywhere takes the names of entries, be they links or not. -/
theorem exists_find?_of_locate_join {fs : FileSystem} {path name : String} {dir : Directory}
    (hdir : fs.readDirectory path = .ok dir) (hname : IsPlainName name) {target : Target}
    (h : fs.locate (Path.join path name) = .ok target) : ∃ node, dir.find? name = some node := by
  obtain ⟨position, hposition, rfl⟩ := readDirectory_eq_ok_iff.mp hdir
  obtain ⟨left, hleft⟩ := locate_join_eq_ok_iff hposition hname
  obtain ⟨-, -, hfollow⟩ := (hleft target).mp h
  rw [← Option.ne_none_iff_exists']
  intro hnone
  rcases Nat.lt_or_ge nameLimit name.utf8ByteSize with hsize | hsize
  · rw [follow_tooLong hname.ne_here hname.ne_above hsize] at hfollow
    cases hfollow
  · rw [follow_none hname.ne_here hname.ne_above hsize hnone] at hfollow
    cases hfollow

theorem not_isFile_join {fs : FileSystem} {path name : String} {dir : Directory}
    (hdir : fs.readDirectory path = .ok dir) (hname : IsPlainName name)
    (hnone : dir.find? name = none) : ¬ fs.isFile (Path.join path name) := by
  intro hfile
  obtain ⟨bytes, hread⟩ := isFile_iff.mp hfile
  obtain ⟨node, hnode⟩ := exists_find?_of_locate_join hdir hname (readFile_eq_ok_iff.mp hread)
  rw [hnone] at hnode
  cases hnode

theorem exists_readDirectory_of_readFile_join {fs : FileSystem} {path name : String}
    {bytes : List UInt8} (hpath : path ≠ "") (hname : IsPlainName name)
    (h : fs.readFile (Path.join path name) = .ok bytes) :
    ∃ dir, fs.readDirectory path = .ok dir := by
  obtain ⟨position, hposition⟩ :=
    exists_position_of_locate_join hpath hname (readFile_eq_ok_iff.mp h)
  exact ⟨position.here, readDirectory_eq_ok_iff.mpr ⟨position, hposition, rfl⟩⟩

/-- What the name of an entry leads to from a position, unless it is that of a link. -/
def Position.enter? (position : Position) (name : String) : Option Target :=
  match position.here.find? name with
  | some (.file bytes) => some (.file bytes)
  | some (.directory entries) => some (.directory (position.down name entries))
  | _ => none

theorem Position.enter?_eq_file_iff {position : Position} {name : String} {bytes : List UInt8} :
    position.enter? name = some (.file bytes) ↔ position.here.find? name = some (.file bytes) := by
  rw [enter?]
  cases position.here.find? name with
  | none => simp
  | some node => cases node <;> simp

theorem Position.enter?_eq_directory_iff {position : Position} {name : String} {dir : Directory} :
    (∃ below, position.enter? name = some (.directory below) ∧ below.here = dir) ↔
      position.here.find? name = some (.directory dir) := by
  rw [enter?]
  cases position.here.find? name with
  | none => simp
  | some node => cases node <;> simp [down]

theorem follow_singleton_eq_ok_iff {top spot : Position} {links : Nat} {name : String}
    {target : Target} (hname : IsPlainName name)
    (hlink : ∀ path, spot.here.find? name ≠ some (.link path)) :
    follow top links spot [name] = .ok target ↔
      name.utf8ByteSize ≤ nameLimit ∧ spot.enter? name = some target := by
  have hhere := hname.ne_here
  have habove := hname.ne_above
  rcases Nat.lt_or_ge nameLimit name.utf8ByteSize with hsize | hsize
  · simp [follow_tooLong hhere habove hsize, Nat.not_le.mpr hsize]
  · rw [Position.enter?]
    cases hnode : spot.here.find? name with
    | none => simp [follow_none hhere habove hsize hnode]
    | some node =>
      cases node with
      | file bytes => simp [follow_file hhere habove hsize hnode, hsize]
      | link path => exact absurd hnode (hlink path)
      | directory entries => simp [follow_directory hhere habove hsize hnode, hsize, follow]

theorem Position.isEntryName_of_enter? {position : Position} (hwf : position.here.WellFormed)
    {name : String} {target : Target} (henter : position.enter? name = some target) :
    IsEntryName name := by
  rw [enter?] at henter
  split at henter
  · exact hwf.isEntryName ‹_›
  · exact hwf.isEntryName ‹_›
  · cases henter

/-- The names of entries are ones that a path can take, so that only its length matters. -/
theorem follow_entry_eq_ok_iff {top position : Position} {links : Nat} {name : String}
    {target : Target} (hwf : position.here.WellFormed) (hname : IsPlainName name)
    (hlink : ∀ path, position.here.find? name ≠ some (.link path)) {short : Prop} :
    '\x00' ∉ name.toList ∧ short ∧ follow top links position [name] = .ok target ↔
      short ∧ position.enter? name = some target := by
  rw [follow_singleton_eq_ok_iff hname hlink]
  constructor
  · rintro ⟨-, hshort, -, henter⟩
    exact ⟨hshort, henter⟩
  · rintro ⟨hshort, henter⟩
    have hentry := position.isEntryName_of_enter? hwf henter
    exact ⟨hentry.no_nul, hshort, hentry.size_le, henter⟩

section Entry

variable {fs : FileSystem} {path name : String} {dir : Directory}
  (hdir : fs.readDirectory path = .ok dir) (hwf : dir.WellFormed) (hname : IsPlainName name)
  (hlink : ∀ target, dir.find? name ≠ some (.link target))
include hdir hwf hname hlink

theorem exists_position_of_readDirectory :
    ∃ position : Position, position.here = dir ∧ ∀ target,
      fs.locate (Path.join path name) = .ok target ↔
        (Path.join path name).utf8ByteSize < pathLimit ∧ position.enter? name = some target := by
  obtain ⟨position, hposition, rfl⟩ := readDirectory_eq_ok_iff.mp hdir
  obtain ⟨left, hleft⟩ := locate_join_eq_ok_iff hposition hname
  refine ⟨position, rfl, fun target => ?_⟩
  rw [hleft, follow_entry_eq_ok_iff hwf hname hlink]

theorem readFile_join_eq_ok_iff {bytes : List UInt8} :
    fs.readFile (Path.join path name) = .ok bytes ↔
      (Path.join path name).utf8ByteSize < pathLimit ∧ dir.find? name = some (.file bytes) := by
  obtain ⟨position, rfl, hlocate⟩ := exists_position_of_readDirectory hdir hwf hname hlink
  rw [readFile_eq_ok_iff, hlocate, Position.enter?_eq_file_iff]

theorem readDirectory_join_eq_ok_iff {below : Directory} :
    fs.readDirectory (Path.join path name) = .ok below ↔
      (Path.join path name).utf8ByteSize < pathLimit ∧
        dir.find? name = some (.directory below) := by
  obtain ⟨position, rfl, hlocate⟩ := exists_position_of_readDirectory hdir hwf hname hlink
  simp only [readDirectory_eq_ok_iff, hlocate, ← Position.enter?_eq_directory_iff]
  constructor
  · rintro ⟨inner, ⟨hpath, henter⟩, hinner⟩
    exact ⟨hpath, inner, henter, hinner⟩
  · rintro ⟨hpath, inner, henter, hinner⟩
    exact ⟨inner, ⟨hpath, henter⟩, hinner⟩

end Entry

theorem readFile_entry_iff {fs : FileSystem} {path name : String} {dir : Directory}
    (hdir : fs.readDirectory path = .ok dir) (hwf : dir.WellFormed) {bytes read : List UInt8}
    (hname : dir.find? name = some (.file bytes)) :
    fs.readFile (Path.join path name) = .ok read ↔
      (Path.join path name).utf8ByteSize < pathLimit ∧ bytes = read := by
  have hplain := (hwf.isEntryName hname).toIsPlainName
  rw [readFile_join_eq_ok_iff hdir hwf hplain (by simp [hname]), hname]
  simp

theorem readDirectory_entry_iff {fs : FileSystem} {path name : String} {dir : Directory}
    (hdir : fs.readDirectory path = .ok dir) (hwf : dir.WellFormed) {entries read : Directory}
    (hname : dir.find? name = some (.directory entries)) :
    fs.readDirectory (Path.join path name) = .ok read ↔
      (Path.join path name).utf8ByteSize < pathLimit ∧ entries = read := by
  have hplain := (hwf.isEntryName hname).toIsPlainName
  rw [readDirectory_join_eq_ok_iff hdir hwf hplain (by simp [hname]), hname]
  simp

/-! ## A disk with one directory -/

/-- A disk with nothing but one directory at its root, which is the current directory. -/
def holding (name : String) (dir : Directory) : FileSystem := ⟨[(name, .directory dir)], []⟩

/-- A text with separators after it. -/
def slashed (name : String) (n : Nat) : String := name ++ .ofList (List.replicate n '/')

theorem splitOn_slashed {name : String} (hname : IsPlainName name) (n : Nat) :
    (slashed name n).toList.splitOn '/' = name.toList :: List.replicate n [] := by
  have htoList (n : Nat) : (slashed name n).toList = name.toList ++ List.replicate n '/' := by
    rw [slashed, String.toList_append, String.toList_ofList]
  induction n with
  | zero => rw [htoList, List.replicate_zero, List.append_nil, List.replicate_zero,
      List.splitOn_eq_singleton hname.no_separator]
  | succ n ih =>
    rw [htoList] at ih
    rw [htoList, List.replicate_succ', ← List.append_assoc, List.splitOn_append_cons_self, ih,
      List.splitOn_nil, List.replicate_succ', List.cons_append]

theorem steps_slashed {name : String} (hname : IsPlainName name) (n : Nat) :
    steps (slashed name n) = name :: if n = 0 then [] else ["."] := by
  rw [steps, splitOn_slashed hname]
  cases n with
  | zero => simp [hname.ne_empty]
  | succ n =>
    have hlast : (name.toList :: List.replicate (n + 1) []).getLast? = some [] := by
      rw [List.replicate_succ', ← List.cons_append, List.getLast?_concat]
    rw [List.getLast?_map, hlast]
    simp [hname.ne_empty]

theorem size_replicate (n : Nat) (c : Char) :
    (String.ofList (List.replicate n c)).utf8ByteSize = n * c.utf8Size := by
  induction n with
  | zero => rw [Nat.zero_mul]; rfl
  | succ n ih =>
    rw [List.replicate_succ, String.ofList_cons, String.utf8ByteSize_append, ih,
      String.utf8ByteSize_singleton, Nat.add_comm, Nat.succ_mul]

theorem size_slashed (name : String) (n : Nat) :
    (slashed name n).utf8ByteSize = name.utf8ByteSize + n := by
  rw [slashed, String.utf8ByteSize_append, size_replicate]
  exact congrArg (_ + ·) (Nat.mul_one n)

theorem join_slashed {name entry : String} (n : Nat) (hentry : '/' ∉ entry.toList) :
    Path.join (slashed name (n + 1)) entry = slashed name (n + 1) ++ entry := by
  refine Path.join_eq_append ?_ hentry
  rw [slashed, String.toList_append, String.toList_ofList, List.replicate_succ',
    ← List.append_assoc, List.getLast?_concat]

theorem readDirectory_holding {name : String} (hname : IsEntryName name) (dir : Directory) {n : Nat}
    (hsize : (slashed name n).utf8ByteSize < pathLimit) :
    (holding name dir).readDirectory (slashed name n) = .ok dir := by
  have hplain := hname.toIsPlainName
  have hnul : '\x00' ∉ (slashed name n).toList := by
    simp [slashed, hname.no_nul]
  have hne : slashed name n ≠ "" := by
    simp [slashed, hplain.ne_empty]
  have habsolute : Path.isAbsolute (slashed name n) = false := by
    rw [slashed, Path.isAbsolute_append hplain.ne_empty,
      Path.isAbsolute_eq_false hplain.no_separator]
  have hfind : (holding name dir).here.here.find? name = some (.directory dir) := by
    simp [holding, here, top, Position.descend, Directory.find?]
  refine readDirectory_eq_ok_iff.mpr ⟨(holding name dir).here.down name dir,
    locate_eq_ok_iff.mpr ⟨hnul, hne, hsize, ?_⟩, rfl⟩
  rw [steps_slashed hplain, start, habsolute, if_neg Bool.false_ne_true,
    follow_directory hplain.ne_here hplain.ne_above hname.size_le hfind]
  split
  · rw [follow]
  · rw [follow_here, follow]

theorem readDirectory_holding_self {name : String} (hname : IsEntryName name) (dir : Directory) :
    (holding name dir).readDirectory name = .ok dir := by
  have hslashed : slashed name 0 = name := by
    simp [slashed]
  have hsize : (slashed name 0).utf8ByteSize < pathLimit := by
    rw [hslashed]
    exact Nat.lt_of_le_of_lt hname.size_le (by decide)
  have hread := readDirectory_holding hname dir hsize
  rwa [hslashed] at hread

end FileSystem

end Folio
