import Folio.Catalog.Basic

/-!
# Looking a document up

A document is found by its category, its slug and, if it is known, its subcategory. Without one
the category itself is searched first and then its directories in ascending order. In each place
the extensions are tried in their order. Symbolic links to files are followed.

Main definitions:

* `isSafeName`: whether a text can only name an entry of a directory.
* `Catalog.find`: the content found under a category, a slug and maybe a subcategory.
* `Catalog.findRoute`: the content found under the parts of a route.
-/

namespace Folio

/-- Whether a text can only name an entry of a directory, and so cannot lead out of it. -/
def isSafeName (name : String) : Bool :=
  name ≠ "" && name ≠ "." && name ≠ ".."
    && !name.toList.contains '/' && !name.toList.contains '\\'

namespace Catalog

/-- The file name of a slug in a format. -/
def fileName (slug : String) (format : Format) : String := slug ++ "." ++ format.ext

/-- The content of the file of a slug in a directory in one format. -/
def findFormat (fs : FileSystem) (dir slug : String) (format : Format) : Option Content :=
  let name := fileName slug format
  match fs.readFile (Path.join dir name) with
  | .ok bytes =>
    let text := textOf bytes
    some { format, text, metadata := (Extraction.ofFile text name).metadata }
  | .error _ => none

/-- The content of the first file of a slug in a directory, in the order of formats. -/
def findIn (fs : FileSystem) (dir slug : String) : Option Content :=
  Format.all.findSome? (findFormat fs dir slug)

/-- The content found under a category, a slug and maybe a subcategory. Names that could lead out
of the catalog find nothing. -/
def find (catalog : Catalog) (fs : FileSystem) (category slug : String)
    (subcategory : Option String) : Except FileError (Option Content) := do
  let path := Path.join catalog.root category
  if !(isSafeName category && isSafeName slug && subcategory.all isSafeName) then .ok none
  else
    match subcategory with
    | some name => .ok (findIn fs (Path.join path name) slug)
    | none =>
      match findIn fs path slug with
      | some content => .ok (some content)
      | none =>
        let entries ← fs.readDirectory path
        let names := (sortNames entries.directories).filter isSafeName
        .ok (names.findSome? fun name => findIn fs (Path.join path name) slug)

/-- The content found under a category and the parts of a route. -/
def findRoute (catalog : Catalog) (fs : FileSystem) (category : String) (parts : List String) :
    Except FileError (Option Content) :=
  match Route.split? parts with
  | some (subcategory, slug) => catalog.find fs category slug subcategory
  | none => .ok none

end Catalog

end Folio
