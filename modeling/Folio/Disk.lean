import Folio.FileSystem.Basic

/-!
# The disk

A file tree is read from disk as far as it is needed: the entries on the way to a path, what the
path leads to, and what the links in that lead to. What cannot be read is taken for missing.

Main definitions:

* `Disk.empty`: the current directory with nothing in it.
* `Disk.add`: a file tree with what is on disk at a path.
-/

namespace Folio.Disk

/-- The path that a path finally leads to, if it leads anywhere. -/
def realPath? (path : String) : IO (Option String) := do
  match ← (IO.FS.realPath path).toBaseIO with
  | .ok real => return some real.toString
  | .error _ => return none

/-- The kind of the entry at a path; a link stands for itself. -/
def kindOf? (path : String) : IO (Option IO.FS.FileType) := do
  match ← ((← IO.currentDir) / path).symlinkMetadata.toBaseIO with
  | .ok metadata => return some metadata.type
  | .error _ => return none

/-- The bytes of a file. -/
def bytesOf (path : String) : IO (List UInt8) := do
  match ← (IO.FS.readBinFile path).toBaseIO with
  | .ok bytes => return bytes.toList
  | .error _ => return []

/-- The names of the entries of a directory. -/
def namesIn (path : String) : IO (List String) := do
  match ← ((← IO.currentDir) / path).readDir.toBaseIO with
  | .ok entries => return (entries.map (·.fileName)).toList
  | .error _ => return []

/-- A link to where the link at a path finally leads. No entry has the name that stands for
nowhere. -/
def linkAt (path : String) : IO Node := do
  return .link ((← realPath? path).getD "\x00")

/-- The entry at a path with all below it, and where the links in it lead. -/
partial def nodeAt (path : String) : IO (Option Node × List String) := do
  match ← kindOf? path with
  | some .dir =>
    let below ← (← namesIn path).mapM fun name => return (name, ← nodeAt (path ++ "/" ++ name))
    let entries := below.filterMap fun (name, node?, _) => node?.map fun node => (name, node)
    return (some (.directory entries), below.flatMap fun (_, _, targets) => targets)
  | some .symlink => return (some (← linkAt path), (← realPath? path).toList)
  | some .file => return (some (.file (← bytesOf path)), [])
  | _ => return (none, [])

/-- A file tree with what is at a path without links on the way to it. -/
partial def addTree (fs : FileSystem) (path : String) : IO FileSystem := do
  let (node?, targets) ← nodeAt path
  let fs := (node?.map (fs.create path)).getD fs
  targets.foldlM (fun fs target =>
    match fs.locate target with
    | .ok _ => return fs
    | .error _ => addTree fs target) fs

/-- A file tree with the entries on the way to a path. -/
def addWay (fs : FileSystem) (path : String) : IO FileSystem := do
  let names := Path.parts path
  let ways := (List.range names.length).map fun n => "/" ++ "/".intercalate (names.take (n + 1))
  ways.foldlM (fun fs way => do
    match ← kindOf? way with
    | some .dir => return fs.createDirectory way
    | some .symlink =>
      let fs := ((← realPath? way).map fs.createDirectory).getD fs
      return fs.create way (← linkAt way)
    | some .file => return fs.create way (.file [])
    | _ => return fs) fs

/-- The current directory with nothing in it. -/
def empty : IO FileSystem := do
  let names := Path.parts (← IO.currentDir).toString
  return ⟨Directory.put (.directory []) [] names, names⟩

/-- A file tree with what is on disk at a path. -/
def add (fs : FileSystem) (path : String) : IO FileSystem := do
  let whole := Path.join (← IO.currentDir).toString path
  let fs ← addWay fs whole
  match ← realPath? whole with
  | some real => if real = "/" then return fs else addTree fs real
  | none => return fs

end Folio.Disk
