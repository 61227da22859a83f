import Folio.Yaml.Scalar.Folding

/-!
# Plain scalars

A plain scalar goes on until a comment, a colon that ends a word, an indicator of a flow
collection around it, a line that is not indented enough, or a marker of documents.

Main definition:

* `Plain.scan`: the text of the plain scalar at a cursor.
-/

namespace Folio.Yaml.Plain

/-- Where a plain scalar stands. -/
structure Setting where
  /-- Whether a flow collection is around it. -/
  inFlow : Bool
  /-- The least column at which it can go on after a break. -/
  indent : Nat

/-- Whether a character is an indicator of flow collections. -/
def isFlowIndicator (c : Char) : Bool :=
  c == ',' || c == '[' || c == ']' || c == '\x7b' || c == '\x7d'

/-- A plain scalar with the cursor after it and the blanks and breaks that follow it. -/
structure Scanned where
  text : List Char
  /-- Whether there is a break between the scalar and the cursor. -/
  broken : Bool
  cursor : Cursor
  deriving Inhabited

/-- Whether a plain scalar ends before a character that follows a gap. -/
def endsAfterGap (s : Setting) (m : Mark) (cs : List Char) : Bool :=
  (!s.inFlow && m.column < s.indent) || cs.head? == some '#'
    || (m.column == 0 && isDocumentMarker cs)

/-- Whether a plain scalar ends before a character wherever that is. -/
def endsAnywhere (s : Setting) : List Char → Bool
  | c :: rest => (c == ':' && atWordEnd rest) || (s.inFlow && isFlowIndicator c)
  | [] => true

/-- Whether a colon stands before an indicator of flow collections, which is a fault in one. -/
def isBadColon (s : Setting) : List Char → Bool
  | ':' :: c :: _ => s.inFlow && (isFlowIndicator c || c == '?')
  | _ => false

/-- Goes on with a scalar of which `text` is read, in reverse, and then a gap. `inGap` tells
whether the gap has any blanks or breaks. -/
def scanFrom (s : Setting) (text : List Char) (gap : Gap) (inGap : Bool) (m : Mark) :
    List Char → Except Error Scanned
  | [] => .ok ⟨text.reverse, gap.broken, m, []⟩
  | c :: rest =>
    if isBlank c then
      if gap.broken && m.column < s.indent && c == '\t' then m.fail .tabIndentation
      else scanFrom s text (gap.addBlank c) true (m.next c) rest
    else if isBreak c then
      if c == '\r' && rest.head? == some '\n' then scanFrom s text gap true m.beforeFeed rest
      else scanFrom s text (gap.addBreak c) true (m.newLine c) rest
    else if inGap && endsAfterGap s m (c :: rest) then
      .ok ⟨text.reverse, gap.broken, m, c :: rest⟩
    else if isBadColon s (c :: rest) then m.fail .unexpectedColon
    else if endsAnywhere s (c :: rest) then .ok ⟨text.reverse, gap.broken, m, c :: rest⟩
    else scanFrom s (c :: gap.text ++ text) .empty false (m.next c) rest

/-- The plain scalar at a cursor. -/
def scan (s : Setting) (c : Cursor) : Except Error Scanned :=
  scanFrom s [] .empty false c.mark c.rest

end Folio.Yaml.Plain
