import Folio.Console.Presentation
import Folio.Console.Verbosity
import Folio.Settings.Basic

/-!
# Requests

Main definitions:

* `CatalogQuery`, `BlogQuery`: what can be asked of the catalog and of the blog.
* `Request`: what the program can be asked for.
* `Invocation`: a request with the settings that come with it.
-/

namespace Folio.Console

/-- A question about the catalog. -/
inductive CatalogQuery where
  /-- The categories with the numbers of their documents. -/
  | categories
  /-- The documents of a category, maybe only those of a status or a format. -/
  | documents (category : String) (status : Option Status) (format : Option Format)
  /-- The document of a slug, which may have its subcategory before it. Only its text is wanted if
  it is `raw`. -/
  | document (category slug : String) (subcategory : Option String) (raw : Bool)
  /-- The navigation, of all categories or of one. -/
  | navigation (category : Option String)
  /-- The routes of all documents. -/
  | routes
  deriving DecidableEq, Repr, Inhabited

/-- A question about the blog. -/
inductive BlogQuery where
  /-- The posts that are shown. -/
  | posts
  /-- The post of a slug. -/
  | post (slug : String)
  /-- The slugs of all posts. -/
  | slugs
  deriving DecidableEq, Repr, Inhabited

/-- A shell that completes command lines. -/
inductive Shell where
  | bash
  | elvish
  | fish
  | powershell
  | zsh
  deriving DecidableEq, Repr, Inhabited

namespace Shell

/-- The name of a shell. -/
def name : Shell → String
  | bash => "bash"
  | elvish => "elvish"
  | fish => "fish"
  | powershell => "powershell"
  | zsh => "zsh"

/-- All shells. -/
def all : List Shell := [bash, elvish, fish, powershell, zsh]

end Shell

/-- What the program is asked for. -/
inductive Request where
  | catalog (query : CatalogQuery) (presentation : Presentation)
  | blog (query : BlogQuery) (presentation : Presentation)
  /-- A script with which a shell completes the names of commands. -/
  | completions (shell : Shell)
  /-- The version of the program. -/
  | version (presentation : Presentation)
  deriving DecidableEq, Repr, Inhabited

/-- A request with the settings that come with it. -/
structure Invocation where
  overrides : Overrides
  /-- Which messages are logged, if any. -/
  log : Option String
  request : Request
  deriving DecidableEq, Repr, Inhabited

end Folio.Console
