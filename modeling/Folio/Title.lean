import Folio.Document.Format
import Folio.Text.Words
import Folio.Unicode.Case

/-!
# Titles from names

A file name becomes a title in four steps: its document extension is dropped, separators become
spaces, every word gets an upper-case first letter, and known acronyms are corrected.

Main definitions:

* `Title.ofFilename`: the title of a file, `dpp-core.schema.json` giving `DPP Core Schema`.
* `Title.ofCategory`: the title of a category, which differs in its first letter only.
-/

namespace Folio.Title

/-- Acronyms as capitalizing leaves them, with their proper spelling, in the order in which they
are corrected. -/
def acronyms : List (String × String) :=
  [("Dpp", "DPP"), ("Gs1", "GS1"), ("Vc", "VC"), ("Did", "DID"), ("Kyc", "KYC"), ("Aml", "AML"),
    ("Rbac", "RBAC"), ("Espr", "ESPR"), ("Gdpr", "GDPR"), ("Mica", "MiCA"), ("Cbv", "CBV")]

/-- A file name without its document extension, in any ASCII case. -/
def stem (filename : List Char) : List Char :=
  match Text.cutLast '.' filename with
  | some (stem, ext) =>
    if (Format.ofExtension? (.ofList ext)).isSome then stem else filename
  | none => filename

/-- The characters that separate words in names. -/
def isSeparator (c : Char) : Bool := c == '-' || c == '_' || c == '.'

/-- Separators as spaces. -/
def spaced (cs : List Char) : List Char := cs.map fun c => if isSeparator c then ' ' else c

/-- The first character of every run of letters and digits in upper case. `inRun` tells whether
the character before was one of them. -/
def capitalizeFrom : (inRun : Bool) → List Char → List Char
  | _, [] => []
  | inRun, c :: rest =>
    let letter := Unicode.isAlphanumeric c
    (if letter && !inRun then Unicode.upper c else [c]) ++ capitalizeFrom letter rest

/-- The first character of every run of letters and digits in upper case. -/
def capitalize (cs : List Char) : List Char := capitalizeFrom false cs

/-- Every acronym in its proper spelling, wherever it occurs. -/
def correctAcronyms (cs : List Char) : List Char :=
  acronyms.foldl (fun cs (plain, proper) => Text.replaceAll plain.toList proper.toList cs) cs

/-- The title of a file name, as characters. -/
def humanize (filename : List Char) : List Char :=
  correctAcronyms (Text.unwords (Text.words (capitalize (spaced (stem filename)))))

/-- The title that a file name stands for. -/
def ofFilename (filename : String) : String := .ofList (humanize filename.toList)

/-- The title of a category: its name with the first character in upper case. -/
def ofCategory (category : String) : String :=
  match category.toList with
  | [] => ""
  | c :: rest => .ofList (Unicode.upper c ++ rest)

end Folio.Title
