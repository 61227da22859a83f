/-!
# File trees

A directory is the list of its entries in the order in which they are enumerated. Nothing else in
the library depends on that order except what enumerates a directory without sorting it.

Main definitions:

* `Node`: a file, a symbolic link or a directory.
* `Directory.find?`: the entry of a name.
* `Directory.put`, `Directory.remove`: a tree with one entry set or taken out.
-/

namespace Folio

/-- What a name in a directory stands for. -/
inductive Node where
  /-- A regular file. -/
  | file (bytes : List UInt8)
  /-- A symbolic link, with the path it points to as written. -/
  | link (target : String)
  /-- A directory. -/
  | directory (entries : List (String × Node))
  deriving Inhabited

/-- The entries of a directory in the order in which they are enumerated. -/
abbrev Directory := List (String × Node)

namespace Node

/-- Whether the node itself is a directory; a link to one is not. -/
def isDirectory : Node → Bool
  | directory _ => true
  | _ => false

/-- The entries of a directory; other nodes have none. -/
def entries : Node → Directory
  | directory entries => entries
  | _ => []

end Node

namespace Directory

/-- The node under a name. -/
def find? (dir : Directory) (name : String) : Option Node := dir.lookup name

/-- The directory with one entry set. A new name comes last. -/
def set (dir : Directory) (name : String) (node : Node) : Directory :=
  if (dir.find? name).isSome then
    dir.map fun entry => if entry.1 == name then (name, node) else entry
  else dir ++ [(name, node)]

/-- The tree with a node put at a place, given by the names on the way to it. Missing directories
are made, and what is not a directory gives way to one. -/
def put (node : Node) : (dir : Directory) → (place : List String) → Directory
  | dir, [] => dir
  | dir, [name] => dir.set name node
  | dir, name :: rest =>
    let below := ((dir.find? name).map Node.entries).getD []
    dir.set name (.directory (put node below rest))

/-- The tree without the node at a place. -/
def remove : (dir : Directory) → (place : List String) → Directory
  | dir, [] => dir
  | dir, [name] => dir.filter fun entry => entry.1 != name
  | dir, name :: rest =>
    match dir.find? name with
    | some (.directory below) => dir.set name (.directory (remove below rest))
    | _ => dir

end Directory

end Folio
