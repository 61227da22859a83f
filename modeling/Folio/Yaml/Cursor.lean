import Folio.Yaml.Error

/-!
# Positions in a YAML text

Main definitions:

* `Mark`: a line, a column and an offset.
* `Cursor`: a mark with the text that follows it.
* `isBreak`, `isBlank`, `isName`: the classes of characters that matter everywhere.
* `isDocumentMarker`: whether a line begins with a marker of documents.
-/

namespace Folio.Yaml

/-! ## Characters -/

/-- Whether a character ends a line. -/
def isBreak (c : Char) : Bool :=
  c == '\n' || c == '\r' || c == '\u0085' || c == '\u2028' || c == '\u2029'

/-- Whether a character separates words on a line. -/
def isBlank (c : Char) : Bool := c == ' ' || c == '\t'

/-- Whether a character may stand in names of anchors, handles and directives. -/
def isName (c : Char) : Bool := c.isAlphanum || c == '_' || c == '-'

/-- Whether a text is at the end of a word: at a blank, a break or its own end. -/
def atWordEnd : List Char → Bool
  | [] => true
  | c :: _ => isBlank c || isBreak c

/-- Whether a text is at the end of a line. -/
def atLineEnd : List Char → Bool
  | [] => true
  | c :: _ => isBreak c

/-- Whether a text begins with one of the two markers that separate documents. -/
def isDocumentMarker : List Char → Bool
  | '-' :: '-' :: '-' :: rest => atWordEnd rest
  | '.' :: '.' :: '.' :: rest => atWordEnd rest
  | _ => false

/-- The value of a hexadecimal digit. -/
def hexValue? (c : Char) : Option Nat :=
  if c.isDigit then some (c.toNat - '0'.toNat)
  else if 'a' ≤ c && c ≤ 'f' then some (c.toNat - 'a'.toNat + 10)
  else if 'A' ≤ c && c ≤ 'F' then some (c.toNat - 'A'.toNat + 10)
  else none

/-- What a break becomes in a scalar. The breaks of one byte or two become a line feed, the
separators of lines and paragraphs stay. -/
def breakText (c : Char) : Char := if c == '\u2028' || c == '\u2029' then c else '\n'

/-! ## Marks -/

/-- A place in a text. -/
structure Mark where
  /-- Counted from 1. -/
  line : Nat
  /-- Characters since the start of the line. -/
  column : Nat
  /-- Bytes since the start of the text. -/
  offset : Nat
  deriving DecidableEq, Repr, Inhabited

namespace Mark

/-- The start of a text. -/
def start : Mark := ⟨1, 0, 0⟩

/-- The place after a character on the same line. -/
def next (m : Mark) (c : Char) : Mark := ⟨m.line, m.column + 1, m.offset + c.utf8Size⟩

/-- The place after characters on the same line. -/
def past (m : Mark) (cs : List Char) : Mark := cs.foldl next m

/-- The place after a break. -/
def newLine (m : Mark) (c : Char) : Mark := ⟨m.line + 1, 0, m.offset + c.utf8Size⟩

/-- The place between a carriage return and the line feed that ends the line with it. -/
def beforeFeed (m : Mark) : Mark := { m with offset := m.offset + 1 }

/-- A fault that shows at a place. -/
def fail (m : Mark) (problem : Problem) : Except Error α := .error ⟨problem, some m.line⟩

end Mark

/-- A place in a text with what follows it. -/
structure Cursor where
  mark : Mark
  rest : List Char
  deriving Inhabited

namespace Cursor

/-- A fault that shows at a cursor. -/
def fail (c : Cursor) (problem : Problem) : Except Error α := c.mark.fail problem

/-- The cursor after `n` characters on the same line. -/
def drop (c : Cursor) (n : Nat) : Cursor := ⟨c.mark.past (c.rest.take n), c.rest.drop n⟩

/-- The characters up to the first that fails `p`, none of them a break, and the cursor there. -/
def takeWhile (c : Cursor) (p : Char → Bool) : List Char × Cursor :=
  let taken := c.rest.takeWhile p
  (taken, ⟨c.mark.past taken, c.rest.dropWhile p⟩)

/-- The cursor at the first character that fails `p`, where breaks fail. -/
def skipWhile (c : Cursor) (p : Char → Bool) : Cursor := (c.takeWhile p).2

/-- The cursor after a break, if there is one. A carriage return takes a line feed with it. -/
def skipBreak (c : Cursor) : Cursor :=
  match c.rest with
  | '\r' :: '\n' :: rest => ⟨c.mark.beforeFeed.newLine '\n', rest⟩
  | ch :: rest => if isBreak ch then ⟨c.mark.newLine ch, rest⟩ else c
  | [] => c

/-- The cursor after blanks and a comment on the rest of a line, and the break that ends it. Fails
if something else is on the line. -/
def skipLineTail (c : Cursor) (problem : Problem) : Except Error Cursor :=
  let c := c.skipWhile isBlank
  let c := if c.rest.head? == some '#' then c.skipWhile (fun ch => !isBreak ch) else c
  if atLineEnd c.rest then .ok c.skipBreak else c.fail problem

end Cursor

end Folio.Yaml
