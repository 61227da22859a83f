import Folio.Console.Arguments
import Folio.Settings.Basic

/-!
# Failures

Main definitions:

* `Failure`: why a request is not answered.
* `Failure.messageBy`: a failure in words.
* `Failure.status`: the exit status that tells the kind of a failure.
-/

namespace Folio.Console

/-- Why a request is not answered. -/
inductive Failure where
  /-- The command line asks for nothing that can be done. -/
  | arguments (error : ArgumentError)
  /-- The settings cannot be used. -/
  | settings (error : SettingsError)
  /-- A file or directory cannot be read. -/
  | file (error : FileError)
  /-- The header of a post cannot be read. -/
  | frontmatter (path : String) (cause : Frontmatter.Error)
  /-- There is no such category, but maybe one of a similar name. -/
  | noCategory (name : String) (similar : Option String)
  /-- There is no such document in a category or subcategory. -/
  | noDocument (slug : String) (category : String) (subcategory : Option String)
  /-- No such post is shown. -/
  | noPost (slug : String)
  /-- A slug with too many parts. -/
  | badSlug (slug : String)
  /-- A subcategory is given twice. -/
  | twoSubcategories
  /-- A table has a column that is too wide to be written. -/
  | tooWide
  deriving Repr, Inhabited

namespace Failure

/-- What the blog fails of. -/
def ofBlog : BlogError → Failure
  | .file error => file error
  | .frontmatter path cause => frontmatter path cause

/-- A failure in words, where faults of YAML are told by `describe`. -/
def messageBy (describe : Yaml.Error → String) : Failure → String
  | arguments error => error.message
  | settings error => error.messageBy describe
  | file error => error.message
  | frontmatter path cause => (BlogError.frontmatter path cause).messageBy describe
  | noCategory name similar =>
    let hint := (similar.map fun other => " (did you mean '" ++ other ++ "'?)").getD ""
    "category '" ++ name ++ "' not found" ++ hint
  | noDocument slug category subcategory =>
    let place := category ++ (subcategory.map ("/" ++ ·)).getD ""
    "specification '" ++ slug ++ "' not found in '" ++ place ++ "'"
  | noPost slug => "post '" ++ slug ++ "' not found"
  | badSlug slug => "invalid slug '" ++ slug ++ "': expected <slug> or <subcategory>/<slug>"
  | twoSubcategories =>
    "give the subcategory either in the slug or with --subcategory, not both"
  | tooWide => "Formatting argument out of range"

/-- The exit status of a failure. Usage and version are not asked for in vain. -/
def status : Failure → Nat
  | arguments (.help _) => 0
  | arguments (.version _) => 0
  | arguments _ => 2
  | settings _ => 2
  | file _ => 3
  | frontmatter _ _ => 1
  | noCategory _ _ => 4
  | noDocument _ _ _ => 4
  | noPost _ => 4
  | badSlug _ => 64
  | twoSubcategories => 64
  | tooWide => 101

end Failure

end Folio.Console
