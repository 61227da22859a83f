import Folio.Blog.Frontmatter
import Folio.Calendar.Instant
import Folio.Json.Basic

/-!
# Posts

Main definitions:

* `Header`: what is known of a post without its body; missing fields have defaults.
* `Listing`, `Post`: a post without and with its body.
* `Listing.compare`: the order of listings, the newest first.
* `PublishFilter`: which posts are shown.
-/

namespace Folio

/-! ## Visibility -/

/-- Which posts are shown. -/
inductive PublishFilter where
  /-- Only those that are published. -/
  | production
  /-- All. -/
  | development
  deriving DecidableEq, Repr, Inhabited

namespace PublishFilter

/-- The filter of an environment: `production` in any ASCII case shows what is published, and
anything else shows all. -/
def ofEnvironment (environment : Option String) : PublishFilter :=
  match environment with
  | some name =>
    if (Text.trim name.toList).map Char.toLower = "production".toList then production
    else development
  | none => development

/-- Whether a post is shown. -/
def admits (filter : PublishFilter) (published : Bool) : Bool :=
  match filter with
  | production => published
  | development => true

/-- The name of the filter. -/
def name : PublishFilter → String
  | production => "Production"
  | development => "Development"

end PublishFilter

/-! ## Headers -/

/-- What is known of a post without its body. -/
structure Header where
  title : String
  /-- The date as written, or the time of reading if there is none. -/
  date : String
  excerpt : String
  author : String
  tags : List String
  coverImage : Option String
  published : Bool
  deriving DecidableEq, Repr, Inhabited

namespace Header

/-- The title of a post that states none. -/
def defaultTitle : String := "Untitled"

/-- The author of a post that states none. -/
def defaultAuthor : String := "Galileo Team"

/-- The header that fields make up, read at a time. -/
def ofFields (now : Instant) (fields : Frontmatter.Fields) : Header where
  title := (Frontmatter.text fields "title").getD defaultTitle
  date := (Frontmatter.text fields "date").getD now.text
  excerpt := (Frontmatter.text fields "excerpt").getD ""
  author := (Frontmatter.text fields "author").getD defaultAuthor
  tags := Frontmatter.list fields "tags"
  coverImage := Frontmatter.text fields "coverImage"
  published := !Frontmatter.isFalse fields "published"

/-- The instant of the date, if it denotes one. -/
def instant? (h : Header) : Option Instant := Instant.parse? h.date

/-- A header as a record. -/
def toJson (h : Header) : Json :=
  .object <|
    [("title", .string h.title), ("date", .string h.date), ("excerpt", .string h.excerpt),
      ("author", .string h.author), ("tags", .strings h.tags)]
    ++ Json.optional "coverImage" h.coverImage
    ++ [("published", .bool h.published)]

end Header

/-! ## Posts -/

/-- A post without its body. -/
structure Listing where
  slug : String
  header : Header
  deriving DecidableEq, Repr, Inhabited

/-- A post. -/
structure Post where
  slug : String
  header : Header
  /-- What follows the frontmatter. -/
  body : String
  deriving DecidableEq, Repr, Inhabited

/-- Later instants before earlier ones, and no instant last. -/
def newestFirst : Option Instant → Option Instant → Ordering
  | some a, some b => b.compare a
  | some _, none => .lt
  | none, some _ => .gt
  | none, none => .eq

/-- The order of listings: by date, the newest first, and then by slug. -/
def Listing.compare (a b : Listing) : Ordering :=
  (newestFirst a.header.instant? b.header.instant?).then (Ord.compare a.slug b.slug)

/-- Posts in the order of listings. Posts that compare equal stay in the order in which they
come. -/
def Listing.sort (posts : List Listing) : List Listing :=
  posts.mergeSort fun a b => (a.compare b).isLE

/-- A post without its body as a record. -/
def Listing.toJson (p : Listing) : Json :=
  .object [("slug", .string p.slug), ("frontmatter", p.header.toJson)]

/-- A post as a record. -/
def Post.toJson (p : Post) : Json :=
  .object [("slug", .string p.slug), ("frontmatter", p.header.toJson), ("content", .string p.body)]

end Folio
