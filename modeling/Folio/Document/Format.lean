import Folio.Path

/-!
# Document formats

The format of a document follows from the extension of its file alone.

Main definitions:

* `Format`: prose in Markdown, a JSON schema, or linked data in JSON.
* `Format.ofExtension?`: the format of an extension in any ASCII case.
* `Format.extensions`: the extensions in the order in which files are looked for.
-/

namespace Folio

/-- The format of a document. -/
inductive Format where
  /-- Prose with bold markers. -/
  | markdown
  /-- A schema. -/
  | json
  /-- A linked-data context or schema. -/
  | jsonld
  deriving DecidableEq, Repr, Inhabited

namespace Format

/-- The extension of files in this format. -/
def ext : Format → String
  | markdown => "md"
  | json => "json"
  | jsonld => "jsonld"

/-- The name under which the format is reported. -/
def name : Format → String
  | markdown => "markdown"
  | json => "json"
  | jsonld => "jsonld"

/-- All formats, in the order in which files are looked for. -/
def all : List Format := [markdown, json, jsonld]

/-- The extensions of documents, in the order in which files are looked for. -/
def extensions : List String := all.map ext

/-- Whether the metadata of the format are read from JSON. -/
def isJson : Format → Bool
  | markdown => false
  | json => true
  | jsonld => true

/-- The format of an extension, written in any ASCII case. -/
def ofExtension? (extension : String) : Option Format :=
  all.find? fun format => format.ext.toList == extension.toList.map Char.toLower

/-- The format of a file of a name. A name that is a dot and an extension has none. -/
def ofName? (name : String) : Option Format := (Path.nameExtension? name).bind ofExtension?

/-- The format of the file that a path names. -/
def ofPath? (path : String) : Option Format := (Path.fileName? path).bind ofName?

/-- The format that the text after the last dot stands for, wherever that dot is. -/
def ofLastDot? (name : String) : Option Format :=
  match Text.cutLast '.' name.toList with
  | some (_, ext) => ofExtension? (.ofList ext)
  | none => none

end Format

end Folio
