import Folio.Document.Route
import Folio.FileSystem.Basic
import Folio.Metadata.Extraction
import Folio.Text.Utf8

/-!
# The catalog

A catalog is a directory with one directory per category. A category holds documents directly and
in directories below it. Every query reads the file system anew. Listing does not follow symbolic
links.

Main definitions:

* `Catalog`: the root directory and the names that are never listed as categories.
* `Catalog.categories`: the names of the categories in ascending order.
* `Catalog.documents`: all documents of a category in the order of listings.
* `Catalog.routes`, `Catalog.count`: what follows from the documents.
-/

namespace Folio

/-- A directory of categories. -/
structure Catalog where
  root : String
  /-- Names that are never listed as categories. -/
  excluded : List String
  deriving DecidableEq, Repr, Inhabited

/-- Names in ascending order. -/
def sortNames (names : List String) : List String := names.mergeSort fun a b => a ≤ b

/-- The names of the directories among the entries of a directory. -/
def Directory.directories (dir : Directory) : List String :=
  (dir.filter (·.2.isDirectory)).map (·.1)

namespace Catalog

/-- The names that are excluded unless others are given. -/
def defaultExcluded : List String := ["contracts"]

/-- The catalog in a directory with the default exclusions. -/
def ofRoot (root : String) : Catalog := ⟨root, defaultExcluded⟩

/-- The names of the categories in ascending order. -/
def categories (catalog : Catalog) (fs : FileSystem) : Except FileError (List String) := do
  let entries ← fs.readDirectory catalog.root
  .ok <| sortNames <| entries.directories.filter fun name => !catalog.excluded.contains name

/-! ## Documents -/

/-- The text of a file. Ill-formed parts are replaced. -/
def textOf (bytes : List UInt8) : String := .ofList (Text.Utf8.decodeLossy bytes)

mutual

/-- The documents that an entry at a path stands for: one for a file with the extension of a
document, those below it for a directory. The subcategory is the first directory below the
category. Files and directories are read by their paths, and what cannot be read is a fault. -/
def documentsAt (fs : FileSystem) (category : String) (subcategory : Option String)
    (path name : String) : Node → Except FileError (List Document)
  | .file _ =>
    match Format.ofName? name with
    | some format => do
      let text := textOf (← fs.readFile path)
      .ok [.ofFile category subcategory name format (Extraction.ofFile text name).metadata]
    | none => .ok []
  | .link _ => .ok []
  | .directory entries => do
    let _ ← fs.readDirectory path
    documentsIn fs category (some (subcategory.getD name)) path entries

/-- The documents below the directory at a path, in the order in which entries are enumerated. -/
def documentsIn (fs : FileSystem) (category : String) (subcategory : Option String)
    (path : String) : Directory → Except FileError (List Document)
  | [] => .ok []
  | (name, node) :: rest => do
    let here ← documentsAt fs category subcategory (Path.join path name) name node
    let others ← documentsIn fs category subcategory path rest
    .ok (here ++ others)

end

/-- All documents of a category in the order of listings. -/
def documents (catalog : Catalog) (fs : FileSystem) (category : String) :
    Except FileError (List Document) := do
  let path := Path.join catalog.root category
  let entries ← fs.readDirectory path
  .ok (Document.sort (← documentsIn fs category none path entries))

/-- The number of documents of a category. -/
def count (catalog : Catalog) (fs : FileSystem) (category : String) : Except FileError Nat := do
  .ok (← catalog.documents fs category).length

/-! ## All categories -/

/-- The documents of categories, in the order in which their scans end. -/
def scan (catalog : Catalog) (fs : FileSystem) (order : List String) :
    Except FileError (List (String × List Document)) :=
  order.mapM fun category => do .ok (category, ← catalog.documents fs category)

/-- The routes of all documents, by category and then in the order of listings. -/
def routes (catalog : Catalog) (fs : FileSystem) : Except FileError (List Route) := do
  let scans ← catalog.scan fs (← catalog.categories fs)
  .ok (scans.flatMap fun (_, documents) => documents.map Document.route)

/-- The number of documents in scanned categories. -/
def totalOf (scans : List (String × List Document)) : Nat :=
  (scans.map fun (_, documents) => documents.length).foldl (· + ·) 0

/-- The number of documents in categories whose scans end in the given order. -/
def totalAfter (catalog : Catalog) (fs : FileSystem) (order : List String) :
    Except FileError Nat := do
  .ok (totalOf (← catalog.scan fs order))

/-- The number of documents in all categories. -/
def total (catalog : Catalog) (fs : FileSystem) : Except FileError Nat := do
  catalog.totalAfter fs (← catalog.categories fs)

end Catalog

end Folio
