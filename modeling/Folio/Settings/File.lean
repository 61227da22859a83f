import Folio.FileSystem.Basic
import Folio.Text.Escaped
import Folio.Text.Utf8
import Folio.Yaml.Composition

/-!
# The settings file

A settings file is YAML with four fields, each of which may be missing or null. Anything else in it
is a fault. Relative paths in it start at its own directory.

Main definitions:

* `FileSettings`: what a settings file says.
* `SettingsError`: why settings cannot be used.
* `FileSettings.load`: the settings in the file at a path.
-/

namespace Folio

/-! ## Faults -/

/-- Why a well-formed file does not hold settings. -/
inductive Mismatch where
  /-- A field of another name. -/
  | unknownField (name : String)
  /-- A field that is given twice. -/
  | repeatedField (name : String)
  /-- A value of another type. -/
  | wrongType (found : Yaml.Value) (expected : String)
  deriving Repr, Inhabited

/-- Why settings cannot be used. -/
inductive SettingsError where
  /-- The file cannot be read as text. -/
  | missingFile (path : String)
  /-- The file is longer than the limit. -/
  | tooLong (size : Nat)
  /-- The file is not YAML. -/
  | yaml (path : String) (error : Yaml.Error)
  /-- The file does not hold settings. -/
  | contents (path : String) (mismatch : Mismatch)
  /-- The base of links is not a web address. -/
  | badBaseUrl (value : String)
  /-- An excluded category is not the name of a directory. -/
  | badExclusion (name : String)
  deriving Repr, Inhabited

/-- The names of the fields in the order in which they are listed. -/
def fieldNames : List String := ["root", "blog_dir", "excluded_categories", "base_url"]

/-- The greatest length of a settings file in bytes. -/
def fileLimit : Nat := 1024 * 1024

/-- How doubles are written in messages: never with an exponent. -/
def messageStyle : Binary64.FloatStyle where
  isPositional _ := true
  infinity := "inf"
  negativeInfinity := "-inf"
  notANumber := "NaN"

/-- What a value is, in words. -/
def describeValue : Yaml.Value → String
  | .null => "unit value"
  | .bool true => "boolean \x60true\x60"
  | .bool false => "boolean \x60false\x60"
  | .number (.integer n) => "integer \x60" ++ toString n ++ "\x60"
  | .number (.float x) => "floating point \x60" ++ x.text messageStyle ++ "\x60"
  | .string text => "string " ++ Text.quote text
  | .sequence _ => "sequence"
  | .mapping _ => "map"
  | .tagged _ value => describeValue value

/-- A mismatch in words. -/
def Mismatch.message : Mismatch → String
  | unknownField name =>
    "unknown field \x60" ++ name ++ "\x60, expected one of "
      ++ ", ".intercalate (fieldNames.map fun field => "\x60" ++ field ++ "\x60")
  | repeatedField name => "duplicate field \x60" ++ name ++ "\x60"
  | wrongType found expected => "invalid type: " ++ describeValue found ++ ", expected " ++ expected

/-- A value that is not as it should be, in words. -/
def invalidValue (field value expected : String) : String :=
  "invalid value for '" ++ field ++ "': got '" ++ value ++ "', expected " ++ expected

/-- An error in words, where faults of YAML are told by `describe`. -/
def SettingsError.messageBy (describe : Yaml.Error → String) : SettingsError → String
  | missingFile path => "file not found: " ++ path
  | tooLong size =>
    invalidValue "file_size" (Nat.repr size ++ " bytes")
      ("at most " ++ Nat.repr fileLimit ++ " bytes")
  | yaml path error =>
    let line := (error.line.map fun n => " (line " ++ Nat.repr n ++ ")").getD ""
    "parse error in " ++ path ++ line ++ ": " ++ describe error
  | contents path mismatch => "parse error in " ++ path ++ ": " ++ mismatch.message
  | badBaseUrl value => invalidValue "base_url" value "an http:// or https:// URL"
  | badExclusion name => invalidValue "excluded_categories" name "a bare directory name"

/-! ## Reading -/

/-- What a settings file says. -/
structure FileSettings where
  root : Option String
  blogDir : Option String
  excluded : Option (List String)
  baseUrl : Option String
  deriving DecidableEq, Repr, Inhabited

namespace FileSettings

/-- The settings of an empty file. -/
def empty : FileSettings := ⟨none, none, none, none⟩

/-- The text of a string. -/
def textOf (expected : String) (value : Yaml.Value) : Except Mismatch String :=
  match value.untagged with
  | .string text => .ok text
  | other => .error (.wrongType other expected)

/-- What a value holds that may be null. -/
def unlessNull (read : Yaml.Value → Except Mismatch α) (value : Yaml.Value) :
    Except Mismatch (Option α) :=
  match value with
  | .null => .ok none
  | value => (read value).map some

/-- The texts of a sequence of strings. -/
def textsOf (value : Yaml.Value) : Except Mismatch (List String) :=
  match value.untagged with
  | .sequence items => items.mapM (textOf "a string")
  | .null => .ok []
  | other => .error (.wrongType other "a sequence")

/-- The settings with one more entry of the file. -/
def add (settings : FileSettings) (seen : List String) (entry : Yaml.Value × Yaml.Value) :
    Except Mismatch (FileSettings × List String) := do
  let name ← textOf "field identifier" entry.1
  if !fieldNames.contains name then .error (.unknownField name)
  else if seen.contains name then .error (.repeatedField name)
  else
    let seen := name :: seen
    if name = "root" then
      .ok ({ settings with root := ← unlessNull (textOf "path string") entry.2 }, seen)
    else if name = "blog_dir" then
      .ok ({ settings with blogDir := ← unlessNull (textOf "path string") entry.2 }, seen)
    else if name = "excluded_categories" then
      .ok ({ settings with excluded := ← unlessNull textsOf entry.2 }, seen)
    else .ok ({ settings with baseUrl := ← unlessNull (textOf "a string") entry.2 }, seen)

/-- The settings that a value holds. -/
def ofValue (value : Yaml.Value) : Except Mismatch FileSettings :=
  match value.untagged with
  | .null => .ok empty
  | .mapping entries => do
    let (settings, _) ← entries.foldlM (fun (settings, seen) entry => add settings seen entry)
      (empty, [])
    .ok settings
  | other => .error (.wrongType other "struct FileConfig")

/-- The settings with relative paths taken to start at a directory. -/
def relativeTo (settings : FileSettings) (dir : String) : FileSettings :=
  { settings with
    root := settings.root.map (Path.join dir), blogDir := settings.blogDir.map (Path.join dir) }

/-- The settings in the file at a path. -/
def load (fs : FileSystem) (path : String) : Except SettingsError FileSettings :=
  match fs.readFile path with
  | .error _ => .error (.missingFile path)
  | .ok bytes =>
    if fileLimit < bytes.length then .error (.tooLong bytes.length)
    else
      match Text.Utf8.decode? bytes with
      | none => .error (.missingFile path)
      | some text =>
        match Yaml.parse ((Text.dropLead ['\ufeff'] text).getD text) with
        | .error error => .error (.yaml path error)
        | .ok value =>
          match ofValue value with
          | .error mismatch => .error (.contents path mismatch)
          | .ok settings => .ok (settings.relativeTo (Path.parent path))

end FileSettings

end Folio
