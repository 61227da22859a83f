import Folio.Text.Split

/-!
# Path texts

Paths are texts with `/` between their parts. They are kept as written: joining adds a separator
where one is missing and normalizes nothing.

Main definitions:

* `Path.join`: a path below a directory, or the path itself if it is absolute.
* `Path.parent`: the directory part of a path.
* `Path.fileName?`, `Path.extension?`: the last part of a path, and what follows its last dot.
-/

namespace Folio.Path

/-- Whether a path starts at the root. -/
def isAbsolute (path : String) : Bool := path.toList.head? == some '/'

/-- A path below a directory. An absolute path stands for itself, and the empty path adds only the
separator. -/
def join (dir path : String) : String :=
  if isAbsolute path then path
  else if dir.isEmpty || dir.toList.getLast? == some '/' then dir ++ path
  else dir ++ "/" ++ path

/-- A reversed path without the separators and the `.` parts at its end. A leading separator and a
leading `.` stay. -/
def trimBack : List Char → List Char
  | ['/'] => ['/']
  | '/' :: rest => trimBack rest
  | '.' :: '/' :: rest => trimBack ('/' :: rest)
  | cs => cs

/-- The path without its last part; empty for a bare name. -/
def parent (path : String) : String :=
  .ofList (trimBack ((trimBack path.toList.reverse).dropWhile (· ≠ '/'))).reverse

/-- The parts of a path that name something: all but empty and `.` parts. -/
def parts (path : String) : List String :=
  ((path.toList.splitOn '/').map String.ofList).filter fun part => part ≠ "" && part ≠ "."

/-- The last part of a path, unless that is `..`. -/
def fileName? (path : String) : Option String :=
  match (parts path).getLast? with
  | some name => if name = ".." then none else some name
  | none => none

/-- What follows the last dot of a file name. A dot that begins the name does not count. -/
def nameExtension? (name : String) : Option String :=
  match Text.cutLast '.' name.toList with
  | some (stem, ext) => if stem.isEmpty then none else some (.ofList ext)
  | none => none

/-- The extension of the file name of a path. -/
def extension? (path : String) : Option String := (fileName? path).bind nameExtension?

end Folio.Path
