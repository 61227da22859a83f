import Folio.Blog.Post
import Folio.Catalog.Basic

/-!
# The blog

A blog is a directory of posts, files named by their slugs. Every query reads the file system anew,
at a time that is given to it.

Main definitions:

* `Blog`: the directory with the filter of what is shown.
* `Blog.posts`: the posts that are shown, in the order of listings.
* `Blog.find`: the post of a slug, if it is shown.
* `Blog.slugs`: the slugs of all posts, shown or not.
-/

namespace Folio

/-- A directory of posts. -/
structure Blog where
  dir : String
  filter : PublishFilter
  deriving DecidableEq, Repr, Inhabited

/-- Why posts cannot be read. -/
inductive BlogError where
  | file (error : FileError)
  | frontmatter (path : String) (cause : Frontmatter.Error)
  deriving DecidableEq, Repr, Inhabited

/-- An error in words, where faults of YAML are told by `describe`. -/
def BlogError.messageBy (describe : Yaml.Error → String) : BlogError → String
  | file error => error.message
  | frontmatter path cause => "invalid frontmatter in " ++ path ++ ": " ++ cause.messageBy describe

namespace Blog

/-- The extensions of posts, in the order in which files are looked for. -/
def extensions : List String := ["mdx", "md"]

/-- Whether a name is that of a post. -/
def isPost (name : String) : Bool :=
  match Text.cutLast '.' name.toList with
  | some (_, ext) => extensions.contains (.ofList ext)
  | none => false

/-- The slug of the post under a name. -/
def slugOf (name : String) : String :=
  let stem := Text.dropTail ".mdx".toList name.toList <|> Text.dropTail ".md".toList name.toList
  (stem.map String.ofList).getD name

/-- The names of all posts in ascending order. A directory that is missing has none. -/
def names (blog : Blog) (fs : FileSystem) : Except FileError (List String) :=
  match fs.readDirectory blog.dir with
  | .ok entries => .ok (sortNames ((entries.map (·.1)).filter isPost))
  | .error e => if e.cause = .notFound then .ok [] else .error e

/-- The header and the body of the post at a path. -/
def read (fs : FileSystem) (now : Instant) (path : String) : Except BlogError (Header × String) :=
  match fs.readFile path with
  | .error e => .error (.file e)
  | .ok bytes =>
    match Text.Utf8.decode? bytes with
    | none => .error (.file ⟨path, .notUtf8⟩)
    | some source =>
      let parts := Frontmatter.split source
      match (parts.yaml.map Frontmatter.parse).getD (.ok []) with
      | .error cause => .error (.frontmatter path cause)
      | .ok fields => .ok (Header.ofFields now fields, .ofList parts.body)

/-- The post under a name, if it is shown. -/
def listing? (blog : Blog) (fs : FileSystem) (now : Instant) (name : String) :
    Except BlogError (Option Listing) := do
  let (header, _) ← read fs now (Path.join blog.dir name)
  .ok (if blog.filter.admits header.published then some ⟨slugOf name, header⟩ else none)

/-- The posts that are shown, in the order of listings. The first name that cannot be read makes
the whole a fault. -/
def posts (blog : Blog) (fs : FileSystem) (now : Instant) : Except BlogError (List Listing) := do
  let names ← (blog.names fs).mapError .file
  let listings ← names.mapM (blog.listing? fs now)
  .ok (Listing.sort (listings.filterMap id))

/-- Whether a slug can only name files of the directory. -/
def isSafeSlug (slug : String) : Bool :=
  slug ≠ "" && !slug.toList.contains '/' && !slug.toList.contains '\\' && slug ≠ ".."

/-- The paths at which the post of a slug may be, in the order in which they are looked at. -/
def candidates (blog : Blog) (slug : String) : List String :=
  extensions.map fun ext => Path.join blog.dir (slug ++ "." ++ ext)

/-- The post of a slug, if it is shown. -/
def find (blog : Blog) (fs : FileSystem) (now : Instant) (slug : String) :
    Except BlogError (Option Post) :=
  if !isSafeSlug slug then .ok none
  else
    match (blog.candidates slug).find? fs.isFile with
    | none => .ok none
    | some path => do
      let (header, body) ← read fs now path
      .ok (if blog.filter.admits header.published then some ⟨slug, header, body⟩ else none)

/-- The slugs of all posts, shown or not, in the order of names. -/
def slugs (blog : Blog) (fs : FileSystem) : Except FileError (List String) :=
  (blog.names fs).map fun names => names.map slugOf

end Blog

end Folio
