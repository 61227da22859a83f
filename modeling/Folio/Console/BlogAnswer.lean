import Folio.Console.Failure
import Folio.Console.Request
import Folio.Console.Table
import Folio.Text.Lines

/-!
# Answers from the blog

Main definitions:

* `postTable`: the table for people.
* `BlogQuery.run`: the run for a question.
-/

namespace Folio.Console

/-! ## Lists of posts -/

/-- A line for each post. -/
def postTable : Table Listing where
  indent := 0
  columns := [⟨fun p => formatDate p.header.date, .longest, 2⟩, ⟨Listing.slug, .longest, 2⟩]
  last p := p.header.title ++ (if p.header.published then "" else "  (unpublished)")

/-- Writes a list of posts. -/
def writePosts (posts : List Listing) : Presentation → Run Unit
  | .json => .write (jsonText (.array (posts.map Listing.toJson)))
  | .human =>
    if posts.isEmpty then .write (Text.unlines ["(no posts)"]) else postTable.write posts

/-- A list of slugs in writing. -/
def slugsText (slugs : List String) : Presentation → String
  | .json => jsonText (.strings slugs)
  | .human => Text.unlines slugs

/-! ## Single posts -/

/-- The lines above the body of a post. -/
def headerLines (h : Header) : List String :=
  [h.title, h.author ++ " · " ++ formatDate h.date]
    ++ (if h.tags.isEmpty then [] else ["Tags: " ++ ", ".intercalate h.tags])
    ++ (if h.excerpt = "" then [] else ["", h.excerpt])
    ++ [""]

/-- A body without the line ends that it begins with. A body that does not end a line is given an
end. -/
def bodyText (body : String) : String :=
  let shown := .ofList (body.toList.dropWhile fun c => c = '\r' || c = '\n')
  if body.toList.getLast? = some '\n' then shown else shown ++ "\n"

/-- A post in writing. -/
def postText (p : Post) : Presentation → String
  | .json => jsonText p.toJson
  | .human => Text.unlines (headerLines p.header) ++ bodyText p.body

/-! ## Questions -/

/-- The run for a question that is asked at a time. -/
def BlogQuery.run (settings : Settings) (fs : FileSystem) (now : Instant)
    (presentation : Presentation) (query : BlogQuery) : Run Unit :=
  let blog := settings.blog
  match query with
  | posts => do
    let posts ← (blog.posts fs now).mapError Failure.ofBlog
    writePosts posts presentation
  | post slug => do
    match ← (blog.find fs now slug).mapError Failure.ofBlog with
    | some found => .write (postText found presentation)
    | none => .fail (.noPost slug)
  | slugs => do
    let slugs ← (blog.slugs fs).mapError Failure.file
    .write (slugsText slugs presentation)

end Folio.Console
