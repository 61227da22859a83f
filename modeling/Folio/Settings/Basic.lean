import Folio.Blog.Basic
import Folio.Catalog.Basic
import Folio.Settings.File

/-!
# Settings

What is asked for directly counts before the settings file, and that before the defaults.

Main definitions:

* `Overrides`: what is asked for directly.
* `Settings`: everything that is needed to open the catalog and the blog.
* `Settings.resolve`: the settings that overrides and a file make up.
* `Settings.link`: a link with the base of links before it.
-/

namespace Folio

/-- What is asked for directly. -/
structure Overrides where
  root : Option String
  blogDir : Option String
  /-- The path of the settings file. -/
  config : Option String
  /-- The environment, which decides what posts are shown. -/
  environment : Option String
  deriving DecidableEq, Repr, Inhabited

/-- Everything that is needed to open the catalog and the blog. -/
structure Settings where
  root : String
  blogDir : String
  excluded : List String
  /-- What links begin with, without a slash at its end. -/
  baseUrl : Option String
  filter : PublishFilter
  deriving DecidableEq, Repr, Inhabited

namespace Settings

/-- Where the catalog is unless something else is said. -/
def defaultRoot : String := "../specifications"

/-- Where the blog is unless something else is said. -/
def defaultBlogDir : String := "content/blog"

/-- A web address without white space around it and then without slashes at its end. -/
def trimUrl (raw : List Char) : List Char := Text.dropEndWhile (· == '/') (Text.trim raw)

/-- The base of links that a text stands for. -/
def baseUrlOf (raw : String) : Except SettingsError String :=
  let trimmed := trimUrl raw.toList
  if "https://".toList.isPrefixOf trimmed || "http://".toList.isPrefixOf trimmed then
    .ok (.ofList trimmed)
  else .error (.badBaseUrl raw)

/-- Whether a text can be the name of a category. -/
def isCategoryName (name : String) : Bool :=
  name ≠ "" && !name.toList.contains '/' && !name.toList.contains '\\'

/-- The settings that overrides and a file make up. -/
def ofFile (overrides : Overrides) (file : FileSettings) : Except SettingsError Settings := do
  let baseUrl ← file.baseUrl.mapM baseUrlOf
  let excluded := file.excluded.getD Catalog.defaultExcluded
  match excluded.find? fun name => !isCategoryName name with
  | some name => .error (.badExclusion name)
  | none =>
    .ok {
      root := (overrides.root <|> file.root).getD defaultRoot
      blogDir := (overrides.blogDir <|> file.blogDir).getD defaultBlogDir
      excluded
      baseUrl
      filter := .ofEnvironment overrides.environment }

/-- The settings that overrides make up with the file that they name, if they name one. -/
def resolve (fs : FileSystem) (overrides : Overrides) : Except SettingsError Settings := do
  let file ← match overrides.config with
    | some path => FileSettings.load fs path
    | none => .ok .empty
  ofFile overrides file

/-- The catalog. -/
def catalog (settings : Settings) : Catalog := ⟨settings.root, settings.excluded⟩

/-- The blog. -/
def blog (settings : Settings) : Blog := ⟨settings.blogDir, settings.filter⟩

/-- A link with the base of links before it, if there is one. -/
def link (settings : Settings) (href : String) : String := settings.baseUrl.getD "" ++ href

end Settings

end Folio
