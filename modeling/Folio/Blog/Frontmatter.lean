import Folio.Text.Split
import Folio.Text.Words
import Folio.Yaml.Composition

/-!
# Frontmatter

A post may begin with a block of YAML between two fences, lines that hold three hyphens.

Main definitions:

* `Frontmatter.split`: a text as its block, if it has one, and its body.
* `Frontmatter.parse`: the fields of a block.
* `Frontmatter.text`, `Frontmatter.list`, `Frontmatter.isFalse`: a field by its name.
-/

namespace Folio.Frontmatter

/-! ## The block -/

/-- What a fence holds, besides white space at its end. -/
def fence : List Char := "---".toList

/-- Whether a line is a fence. -/
def isFence (line : List Char) : Bool := Text.trimEnd line == fence

/-- A text as its block, if it has one, and its body. -/
structure Split where
  yaml : Option (List Char)
  body : List Char
  deriving DecidableEq, Repr

/-- The lines before the first fence and those after it. -/
def cutAtFence (before : List (List Char)) :
    List (List Char) → Option (List (List Char) × List (List Char))
  | [] => none
  | line :: rest =>
    if isFence line then some (before.reverse, rest) else cutAtFence (line :: before) rest

/-- A text without the byte order mark that it may begin with. -/
def dropMark (source : List Char) : List Char :=
  (Text.dropLead ['\ufeff'] source).getD source

/-- A text as its block and its body. The first line has to be a fence that a line feed ends, and
there has to be another; otherwise all is body. -/
def split (source : List Char) : Split :=
  let text := dropMark source
  match Text.cutFirst '\n' text with
  | some (first, rest) =>
    if isFence first then
      match cutAtFence [] (Text.linesInclusive rest) with
      | some (yaml, body) => ⟨some yaml.flatten, body.flatten⟩
      | none => ⟨none, text⟩
    else ⟨none, text⟩
  | none => ⟨none, text⟩

/-! ## Fields -/

/-- The fields of a block in their order. -/
abbrev Fields := List (Yaml.Value × Yaml.Value)

/-- Why a block has no fields. -/
inductive Error where
  | yaml (error : Yaml.Error)
  /-- The block holds something else than a mapping. -/
  | notMapping (found : String)
  deriving DecidableEq, Repr, Inhabited

/-- A fault in words, where those of YAML are told by `describe`. -/
def Error.messageBy (describe : Yaml.Error → String) : Error → String
  | yaml error => describe error
  | notMapping found => "expected a mapping, found " ++ found

/-- The fields of a block. A null has none. -/
def parse (yaml : List Char) : Except Error Fields :=
  match Yaml.parse yaml with
  | .error error => .error (.yaml error)
  | .ok .null => .ok []
  | .ok (.mapping entries) => .ok entries
  | .ok (.bool _) => .error (.notMapping "a boolean")
  | .ok (.number _) => .error (.notMapping "a number")
  | .ok (.string _) => .error (.notMapping "a string")
  | .ok (.sequence _) => .error (.notMapping "a sequence")
  | .ok (.tagged _ _) => .error (.notMapping "a tagged value")

/-- A scalar as text; a null is none. -/
def scalarText? : Yaml.Value → Option String
  | .string text => some text
  | .number value => some value.text
  | .bool true => some "true"
  | .bool false => some "false"
  | _ => none

/-- The text of a field. An empty text counts as absent. -/
def text (fields : Fields) (key : String) : Option String :=
  ((Yaml.Value.field? fields key).bind scalarText?).filter (· ≠ "")

/-- The text of an item of a list: a string or a number. -/
def itemText? : Yaml.Value → Option String
  | .string text => some text
  | .number value => some value.text
  | _ => none

/-- The list that a field holds. A string that is not empty is a list of itself. -/
def list (fields : Fields) (key : String) : List String :=
  match Yaml.Value.field? fields key with
  | some (.sequence items) => items.filterMap itemText?
  | some (.string text) => if text = "" then [] else [text]
  | _ => []

/-- Whether a field is the boolean false. -/
def isFalse (fields : Fields) (key : String) : Bool :=
  match Yaml.Value.field? fields key with
  | some (.bool false) => true
  | _ => false

end Folio.Frontmatter
