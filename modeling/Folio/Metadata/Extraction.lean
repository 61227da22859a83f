import Folio.Metadata.Markdown
import Folio.Metadata.Schema

/-!
# Metadata of files

Reading metadata never fails. What cannot be read gets metadata made from the file name.

Main definitions:

* `Extraction`: metadata, with whether the text or only the file name gave them.
* `Extraction.ofFile`: the metadata of a file by its format.
-/

namespace Folio

/-- Metadata with their origin. -/
inductive Extraction where
  /-- Read from the text. -/
  | parsed (metadata : Metadata)
  /-- Made from the file name. -/
  | fallback (metadata : Metadata)
  deriving DecidableEq, Repr

namespace Extraction

/-- The metadata, whatever their origin. -/
def metadata : Extraction → Metadata
  | parsed m => m
  | fallback m => m

/-- Whether only the file name gave the metadata. -/
def isFallback : Extraction → Bool
  | parsed _ => false
  | fallback _ => true

end Extraction

/-- The metadata made from a file name. -/
def Metadata.ofFilename (filename : String) : Metadata where
  title := Title.ofFilename filename
  status := .draft
  version := Markdown.defaultVersion
  lastUpdated := ""
  identifier := none

namespace Extraction

/-- The metadata of a schema. -/
def ofSchema (content filename : String) : Extraction :=
  match Schema.metadata? content filename with
  | some m => parsed m
  | none => fallback (.ofFilename filename)

/-- The metadata of a file in the format that its name shows. -/
def ofFile (content filename : String) : Extraction :=
  match Format.ofLastDot? filename with
  | some format =>
    if format.isJson then ofSchema content filename else parsed (Markdown.metadata content)
  | none => fallback (.ofFilename filename)

end Extraction

end Folio
