import Folio.FileSystem.Tree
import Folio.Path

/-!
# Paths in a file tree

A path is followed name by name from the current directory, or from the root if it is absolute.
Symbolic links are followed wherever a path leads through them or ends in them.

Main definitions:

* `FileSystem`: a file tree with a current directory.
* `IoError`: why a path cannot be read; `FileError` adds the path.
* `FileSystem.locate`: what a path leads to.
* `FileSystem.readDirectory`, `FileSystem.readFile`, `FileSystem.isFile`: the queries on paths.
* `FileSystem.create`, `FileSystem.delete`: the tree with one node made or taken out.
-/

namespace Folio

/-- Why a path cannot be read. -/
inductive IoError where
  | notFound
  | notDirectory
  | isDirectory
  | nameTooLong
  | tooManyLinks
  | nulInPath
  | notUtf8
  deriving DecidableEq, Repr, Inhabited

/-- The text of an error. -/
def IoError.message : IoError → String
  | notFound => "No such file or directory (os error 2)"
  | notDirectory => "Not a directory (os error 20)"
  | isDirectory => "Is a directory (os error 21)"
  | nameTooLong => "File name too long (os error 36)"
  | tooManyLinks => "Too many levels of symbolic links (os error 40)"
  | nulInPath => "file name contained an unexpected NUL byte"
  | notUtf8 => "stream did not contain valid UTF-8"

/-- A path that cannot be read, as written, with the reason. -/
structure FileError where
  path : String
  cause : IoError
  deriving DecidableEq, Repr, Inhabited

/-- The text of an error with its path. -/
def FileError.message (e : FileError) : String :=
  "I/O error at " ++ e.path ++ ": " ++ e.cause.message

/-- A file tree with a current directory. -/
structure FileSystem where
  root : Directory
  /-- The names on the way from the root to the current directory. -/
  current : List String
  deriving Inhabited

namespace FileSystem

/-- The longest name, in bytes. -/
def nameLimit : Nat := 255

/-- One more than the longest path, in bytes. -/
def pathLimit : Nat := 4096

/-- How many links are followed on one path. -/
def linkLimit : Nat := 40

/-! ## Following a path -/

/-- A directory that a path has reached, with the directories above it, the nearest first, each
with the name that was taken in it. -/
structure Position where
  here : Directory
  above : List (String × Directory)
  deriving Inhabited

/-- The position above. The root is above itself. -/
def Position.up (position : Position) : Position :=
  match position.above with
  | [] => position
  | (_, dir) :: above => ⟨dir, above⟩

/-- The position one name below. -/
def Position.down (position : Position) (name : String) (dir : Directory) : Position :=
  ⟨dir, (name, position.here) :: position.above⟩

/-- The names on the way from the root. -/
def Position.place (position : Position) : List String := (position.above.map (·.1)).reverse

/-- What a path leads to. -/
inductive Target where
  | file (bytes : List UInt8)
  | directory (position : Position)
  deriving Inhabited

/-- The steps that a path takes. A separator at its end asks for a directory, and so does a step
to where it is. -/
def steps (path : String) : List String :=
  let names := (path.toList.splitOn '/').map String.ofList
  let ending := if names.getLast? == some "" then ["."] else []
  names.filter (· ≠ "") ++ ending

/-- Follows steps from a directory. At most `links` symbolic links are followed; those with an
absolute target go on from `top`. -/
def follow (top : Position) (links : Nat) (spot : Position) : List String → Except IoError Target
  | [] => .ok (.directory spot)
  | name :: rest =>
    if name = "." then follow top links spot rest
    else if name = ".." then follow top links spot.up rest
    else if nameLimit < name.utf8ByteSize then .error .nameTooLong
    else
      match spot.here.find? name with
      | none => .error .notFound
      | some (.file bytes) => if rest.isEmpty then .ok (.file bytes) else .error .notDirectory
      | some (.directory entries) => follow top links (spot.down name entries) rest
      | some (.link target) =>
        match links with
        | 0 => .error .tooManyLinks
        | links + 1 =>
          follow top links (if Path.isAbsolute target then top else spot) (steps target ++ rest)
termination_by names => (links, names.length)

/-- The root as a position. -/
def top (fs : FileSystem) : Position := ⟨fs.root, []⟩

/-- The position below another that names lead to, as far as they lead to directories. -/
def Position.descend (position : Position) : List String → Position
  | [] => position
  | name :: rest =>
    match position.here.find? name with
    | some (.directory entries) => (position.down name entries).descend rest
    | _ => position

/-- The current directory as a position. -/
def here (fs : FileSystem) : Position := fs.top.descend fs.current

/-- Where a path starts. -/
def start (fs : FileSystem) (path : String) : Position :=
  if Path.isAbsolute path then fs.top else fs.here

/-- What a path leads to. The empty path leads nowhere. -/
def locate (fs : FileSystem) (path : String) : Except IoError Target :=
  if path.toList.contains '\x00' then .error .nulInPath
  else if path.isEmpty then .error .notFound
  else if pathLimit ≤ path.utf8ByteSize then .error .nameTooLong
  else follow fs.top linkLimit (fs.start path) (steps path)

/-! ## Queries -/

/-- The entries of the directory at a path. -/
def readDirectory (fs : FileSystem) (path : String) : Except FileError Directory :=
  match fs.locate path with
  | .ok (.directory position) => .ok position.here
  | .ok (.file _) => .error ⟨path, .notDirectory⟩
  | .error cause => .error ⟨path, cause⟩

/-- The bytes of the file at a path. -/
def readFile (fs : FileSystem) (path : String) : Except FileError (List UInt8) :=
  match fs.locate path with
  | .ok (.file bytes) => .ok bytes
  | .ok (.directory _) => .error ⟨path, .isDirectory⟩
  | .error cause => .error ⟨path, cause⟩

/-- Whether a path leads to a file. -/
def isFile (fs : FileSystem) (path : String) : Bool :=
  match fs.locate path with
  | .ok (.file _) => true
  | _ => false

/-! ## Changes -/

/-- The place of the entry that a path names. Links on the way are followed as far as they lead to
directories; the last name stands for itself. -/
def placeOf (fs : FileSystem) (path : String) : List String :=
  let names := Path.parts path
  match follow fs.top linkLimit (fs.start path) names.dropLast with
  | .ok (.directory position) => position.place ++ names.getLast?.toList
  | _ => (fs.start path).place ++ names

/-- The file system with a node made at a path, and the directories above it where they are
missing. -/
def create (fs : FileSystem) (path : String) (node : Node) : FileSystem :=
  { fs with root := fs.root.put node (fs.placeOf path) }

/-- The file system with a directory at a path. One that is there already stays. -/
def createDirectory (fs : FileSystem) (path : String) : FileSystem :=
  match fs.locate path with
  | .ok (.directory _) => fs
  | _ => fs.create path (.directory [])

/-- The file system without the node at a path. -/
def delete (fs : FileSystem) (path : String) : FileSystem :=
  { fs with root := fs.root.remove (fs.placeOf path) }

end FileSystem

end Folio
