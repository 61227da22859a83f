import Folio.Yaml.Cursor

/-!
# Block scalars

A block scalar is a head and the indented lines after it. A literal scalar keeps its breaks, a
folded one turns a break between two lines that begin with other than blanks into a space.

Main definition:

* `Block.scan`: the text of the block scalar at a cursor.
-/

namespace Folio.Yaml.Block

/-- What becomes of the breaks at the end. -/
inductive Chomping where
  /-- None is kept. -/
  | strip
  /-- The first is kept. -/
  | clip
  /-- All are kept. -/
  | keep
  deriving DecidableEq, Repr

/-- The indicators in the head of a block scalar. -/
structure Head where
  chomping : Chomping
  /-- How much further the lines are indented than what is around them, if that is given. -/
  increment : Option Nat

/-- The chomping that an indicator asks for. -/
def chomping? : Char → Option Chomping
  | '+' => some .keep
  | '-' => some .strip
  | _ => none

/-- The indentation that an indicator asks for. -/
def increment? (c : Char) : Option Nat := if c.isDigit then some (c.toNat - '0'.toNat) else none

/-- The indicators after the first character of a block scalar, in either order, with the cursor
after them. An indentation of zero is a fault. -/
def head (c : Cursor) : Except Error (Head × Cursor) :=
  let chomping := c.rest.head?.bind chomping?
  let increment := c.rest.head?.bind increment?
  let after := c.drop 1
  match chomping, increment with
  | some chomping, _ =>
    match after.rest.head?.bind increment? with
    | some 0 => after.fail .badBlockHead
    | some n => .ok (⟨chomping, some n⟩, after.drop 1)
    | none => .ok (⟨chomping, none⟩, after)
  | none, some 0 => c.fail .badBlockHead
  | none, some n =>
    match after.rest.head?.bind chomping? with
    | some chomping => .ok (⟨chomping, some n⟩, after.drop 1)
    | none => .ok (⟨.clip, some n⟩, after)
  | none, none => .ok (⟨.clip, none⟩, c)

/-- What of a block scalar has been read. -/
structure Progress where
  /-- In reverse. -/
  text : List Char
  /-- The break that ended the last line, if one did. -/
  ending : Option Char
  /-- The breaks of blank lines since, in reverse. -/
  more : List Char
  /-- Whether the last line began with a blank. -/
  wasBlank : Bool
  /-- The column at which lines start, once that is known. -/
  indent : Option Nat
  /-- The greatest column that spaces have led to on lines of nothing else. -/
  deepest : Nat
  deriving Inhabited

/-- The text with the breaks before a new line, in reverse. `isBlank` tells whether the new line
begins with a blank. -/
def Progress.joined (p : Progress) (literal startsBlank : Bool) : List Char :=
  if !literal && p.ending == some '\n' && !p.wasBlank && !startsBlank then
    if p.more.isEmpty then ' ' :: p.text else p.more ++ p.text
  else p.more ++ p.ending.toList ++ p.text

/-- The text at the end. -/
def Progress.chomped (p : Progress) : Chomping → List Char
  | .strip => p.text.reverse
  | .clip => (p.ending.toList ++ p.text).reverse
  | .keep => (p.more ++ p.ending.toList ++ p.text).reverse

/-- What a block scalar is written in. -/
structure Setting where
  literal : Bool
  chomping : Chomping
  /-- The least column at which lines can start. -/
  least : Nat

/-- Whether indentation goes on at a column. -/
def Progress.indents (p : Progress) (column : Nat) : Bool := p.indent.all (column < ·)

/-- Goes on with a scalar, inside a line or in the indentation before one. -/
def scanFrom (s : Setting) (inLine : Bool) (p : Progress) (m : Mark) :
    List Char → Except Error (List Char × Cursor)
  | [] => .ok (p.chomped s.chomping, ⟨m, []⟩)
  | c :: rest =>
    if inLine then
      if isBreak c then
        if c == '\r' && rest.head? == some '\n' then scanFrom s true p m.beforeFeed rest
        else scanFrom s false { p with ending := some (breakText c) } (m.newLine c) rest
      else scanFrom s true { p with text := c :: p.text } (m.next c) rest
    else if c == ' ' && p.indents m.column then scanFrom s false p (m.next c) rest
    else
      let p := { p with deepest := max p.deepest m.column }
      if c == '\t' && p.indents m.column then m.fail .tabIndentation
      else if isBreak c then
        if c == '\r' && rest.head? == some '\n' then scanFrom s false p m.beforeFeed rest
        else scanFrom s false { p with more := breakText c :: p.more } (m.newLine c) rest
      else
        let indent := p.indent.getD (max p.deepest s.least)
        if m.column = indent then
          let startsBlank := isBlank c
          let text := c :: p.joined s.literal startsBlank
          scanFrom s true ⟨text, none, [], startsBlank, some indent, p.deepest⟩ (m.next c) rest
        else .ok (p.chomped s.chomping, ⟨m, c :: rest⟩)

/-- The block scalar at a cursor, inside a collection that is indented to `outer`. -/
def scan (literal : Bool) (outer : Option Nat) (c : Cursor) :
    Except Error (List Char × Cursor) := do
  let (head, c) ← head (c.drop 1)
  let c ← c.skipLineTail .badBlockHead
  let setting := ⟨literal, head.chomping, max 1 ((outer.map (· + 1)).getD 0)⟩
  let indent := head.increment.map (· + outer.getD 0)
  scanFrom setting false ⟨[], none, [], false, indent, 0⟩ c.mark c.rest

end Folio.Yaml.Block
