import Folio.Yaml.Scalar.Block
import Folio.Yaml.Scalar.Plain
import Folio.Yaml.Scalar.Quoted
import Folio.Yaml.Tag

/-!
# From text to tokens

Whether a scalar or a collection is a key shows only at the colon after it. Until then it is a
candidate, which remembers the number of its token; the colon puts a key token in front of that.
Tokens from a candidate on are not settled, and a fault that shows while it stands takes them with
it.

Main definitions:

* `Lexer`: the tokens so far and what bears on the next one.
* `Lexer.fetch`: the next token, and those that it implies.
* `tokensOf`: the settled tokens of a text, and the fault that ends them if there is one.
-/

namespace Folio.Yaml

/-- A token that will be a key if a colon follows. -/
structure Candidate where
  /-- The number of tokens before it. -/
  number : Nat
  mark : Mark
  /-- Whether nothing but a key can stand there. -/
  required : Bool
  deriving Repr, Inhabited

/-- The tokens so far and what bears on the next one. -/
structure Lexer where
  cursor : Cursor
  /-- In reverse. -/
  tokens : List Token
  /-- How many tokens there are. -/
  count : Nat
  /-- The columns of the block collections that are open, the innermost first. -/
  indents : List Nat
  /-- The candidate of each flow collection that is open, the innermost first. -/
  inner : List (Option Candidate)
  /-- The candidate outside all flow collections. -/
  outer : Option Candidate
  /-- Whether a key may start at the next token. -/
  keyAllowed : Bool
  deriving Inhabited

namespace Lexer

/-- The lexer at the start of a text. -/
def start (text : List Char) : Lexer :=
  ⟨⟨.start, text⟩, [], 0, [], [], none, true⟩

/-- Whether a flow collection is open. -/
def inFlow (l : Lexer) : Bool := !l.inner.isEmpty

/-- Where the next token starts. -/
def mark (l : Lexer) : Mark := l.cursor.mark

/-- The candidate of the innermost collection. -/
def candidate (l : Lexer) : Option Candidate :=
  match l.inner with
  | candidate :: _ => candidate
  | [] => l.outer

/-- The lexer with another candidate in the innermost collection. -/
def setCandidate (l : Lexer) (candidate : Option Candidate) : Lexer :=
  match l.inner with
  | _ :: inner => { l with inner := candidate :: inner }
  | [] => { l with outer := candidate }

/-- The lexer with the word whether a key may start at the next token. -/
def allowKey (l : Lexer) (allowed : Bool) : Lexer := { l with keyAllowed := allowed }

/-- How many tokens are settled: those before the first candidate. -/
def settled (l : Lexer) : Nat :=
  match ((l.outer :: l.inner.reverse).filterMap id).head? with
  | some candidate => candidate.number
  | none => l.count

/-! ## Putting tokens -/

/-- The lexer with one more token. -/
def put (l : Lexer) (kind : TokenKind) (line : Nat) : Lexer :=
  { l with tokens := ⟨kind, line⟩ :: l.tokens, count := l.count + 1 }

/-- The lexer with a token put in front of the token of a number. -/
def putBefore (l : Lexer) (number : Nat) (token : Token) : Lexer :=
  let (after, before) := l.tokens.splitAt (l.count - number)
  { l with tokens := after ++ token :: before, count := l.count + 1 }

/-- The lexer after a token of some characters. -/
def punctuation (l : Lexer) (kind : TokenKind) (length : Nat) : Lexer :=
  { l.put kind l.mark.line with cursor := l.cursor.drop length }

/-! ## Candidates -/

/-- A candidate that must be a key is a fault when it can no longer be one. -/
def expire (l : Lexer) : Option Candidate → Except Error (Option Candidate)
  | some candidate =>
    if candidate.required then l.cursor.fail .keyWithoutValue else .ok none
  | none => .ok none

/-- A key takes one line, and at most this many bytes. -/
def keyLimit : Nat := 1024

/-- The candidate, unless the text has gone on too far for it. -/
def refresh (l : Lexer) : Option Candidate → Except Error (Option Candidate)
  | some candidate =>
    if candidate.mark.line < l.mark.line || candidate.mark.offset + keyLimit < l.mark.offset then
      l.expire (some candidate)
    else .ok (some candidate)
  | none => .ok none

/-- The lexer without the candidates for which the text has gone on too far. -/
def dropStale (l : Lexer) : Except Error Lexer := do
  let outer ← l.refresh l.outer
  let inner ← l.inner.reverse.mapM l.refresh
  .ok { l with outer, inner := inner.reverse }

/-- The lexer without a candidate in the innermost collection. -/
def dropCandidate (l : Lexer) : Except Error Lexer := do
  .ok (l.setCandidate (← l.expire l.candidate))

/-- The lexer with the next token as a candidate, if a key may start there. -/
def saveCandidate (l : Lexer) : Except Error Lexer := do
  if l.keyAllowed then
    let required := !l.inFlow && l.indents.head? == some l.mark.column
    let l ← l.dropCandidate
    .ok (l.setCandidate (some ⟨l.count, l.mark, required⟩))
  else .ok l

/-! ## Indentation -/

/-- Whether a column is further in than the innermost block collection. -/
def isDeeper (l : Lexer) (column : Nat) : Bool := l.indents.head?.all (· < column)

/-- The lexer with a block collection opened at a column, if that is further in than the innermost
one. Its token comes last, or in front of the token of a number. -/
def openBlock (l : Lexer) (kind : TokenKind) (m : Mark) (number : Option Nat) : Lexer :=
  if !l.inFlow && l.isDeeper m.column then
    let l := { l with indents := m.column :: l.indents }
    match number with
    | some number => l.putBefore number ⟨kind, m.line⟩
    | none => l.put kind m.line
  else l

/-- Closes block collections as long as `closes` holds of their column. -/
def closeWhile (closes : Nat → Bool) (l : Lexer) : List Nat → Lexer
  | [] => { l with indents := [] }
  | indent :: rest =>
    if closes indent then closeWhile closes (l.put .blockEnd l.mark.line) rest
    else { l with indents := indent :: rest }

/-- The lexer with the block collections closed that are further in than a column; all of them if
there is no column. -/
def closeBlocks (l : Lexer) (column : Option Nat) : Lexer :=
  if l.inFlow then l
  else l.closeWhile (fun indent => column.all (· < indent)) l.indents

/-! ## Between tokens -/

/-- Passes over blanks, comments and breaks. `tabs` tells whether tabs are blanks here; `keyAllowed`
is set at each break outside flow collections. -/
def skipSpace (inFlow keyAllowed comment : Bool) (m : Mark) : List Char → Cursor × Bool
  | [] => (⟨m, []⟩, keyAllowed)
  | c :: rest =>
    if isBreak c then
      if c == '\r' && rest.head? == some '\n' then
        skipSpace inFlow keyAllowed comment m.beforeFeed rest
      else skipSpace inFlow (keyAllowed || !inFlow) false (m.newLine c) rest
    else if comment then skipSpace inFlow keyAllowed true (m.next c) rest
    else if c == ' ' || (c == '\t' && (inFlow || !keyAllowed))
        || (c == '\ufeff' && m.offset == 0) then
      skipSpace inFlow keyAllowed false (m.next c) rest
    else if c == '#' then skipSpace inFlow keyAllowed true (m.next c) rest
    else (⟨m, c :: rest⟩, keyAllowed)

/-- The lexer at the start of the next token. -/
def toNextToken (l : Lexer) : Lexer :=
  let (cursor, keyAllowed) := skipSpace l.inFlow l.keyAllowed false l.mark l.cursor.rest
  { l with cursor, keyAllowed }

/-! ## Single tokens -/

/-- The end of the text. What is open ends on a new line. -/
def streamEnd (l : Lexer) : Except Error Lexer := do
  let m := l.mark
  let m := if m.column = 0 then m else { m with line := m.line + 1, column := 0 }
  let l := { l with cursor := ⟨m, l.cursor.rest⟩ }
  let l ← (l.closeBlocks none).dropCandidate
  .ok ((l.allowKey false).put .streamEnd m.line)

/-- A number of a version, of at most nine digits. -/
def versionNumber (c : Cursor) : Except Error (Nat × Cursor) :=
  let (digits, after) := c.takeWhile Char.isDigit
  if digits.isEmpty || 9 < digits.length then after.fail .badDirective
  else .ok (digits.foldl (fun n d => 10 * n + (d.toNat - '0'.toNat)) 0, after)

/-- The directive at a cursor. -/
def scanDirective (c : Cursor) : Except Error (TokenKind × Cursor) := do
  let (name, after) := (c.drop 1).takeWhile isName
  if name.isEmpty || !atWordEnd after.rest then after.fail .badDirective
  else if name = "YAML".toList then
    let (major, after) ← versionNumber (after.skipWhile isBlank)
    if after.rest.head? != some '.' then after.fail .badDirective
    else
      let (minor, after) ← versionNumber (after.drop 1)
      .ok (.versionDirective major minor, ← after.skipLineTail .badDirective)
  else if name = "TAG".toList then
    let ((handle, lead), after) ← scanTagDirective after
    .ok (.tagDirective handle lead, ← after.skipLineTail .badDirective)
  else after.fail .badDirective

/-- The name of an anchor or an alias after its indicator. -/
def scanName (c : Cursor) : Except Error (List Char × Cursor) :=
  let (name, after) := (c.drop 1).takeWhile isName
  let ends := atWordEnd after.rest || after.rest.head?.any "?:,]\x7d%@\x60".toList.contains
  if name.isEmpty || !ends then after.fail .badAnchor else .ok (name, after)

/-- A directive. It closes all that is open. -/
def directive (l : Lexer) : Except Error Lexer := do
  let l ← (l.closeBlocks none).dropCandidate
  let (kind, cursor) ← scanDirective l.cursor
  .ok { l.put kind l.mark.line with cursor, keyAllowed := false }

/-- A marker of documents. It closes all that is open. -/
def documentMarker (l : Lexer) (kind : TokenKind) : Except Error Lexer := do
  let l ← (l.closeBlocks none).dropCandidate
  .ok ((l.allowKey false).punctuation kind 3)

/-- The start of a flow collection, which may be a key. -/
def flowStart (l : Lexer) (kind : TokenKind) : Except Error Lexer := do
  let l ← l.saveCandidate
  .ok ({ l with inner := none :: l.inner, keyAllowed := true }.punctuation kind 1)

/-- The end of a flow collection. -/
def flowEnd (l : Lexer) (kind : TokenKind) : Except Error Lexer := do
  let l ← l.dropCandidate
  .ok ({ l with inner := l.inner.tail, keyAllowed := false }.punctuation kind 1)

/-- A comma between entries of a flow collection. -/
def flowEntry (l : Lexer) : Except Error Lexer := do
  let l ← l.dropCandidate
  .ok ((l.allowKey true).punctuation .flowEntry 1)

/-- A dash before an entry of a block sequence. -/
def blockEntry (l : Lexer) : Except Error Lexer := do
  if !l.inFlow && !l.keyAllowed then l.cursor.fail .misplacedEntry
  else
    let l ← (l.openBlock .blockSequenceStart l.mark none).dropCandidate
    .ok ((l.allowKey true).punctuation .blockEntry 1)

/-- A question mark before a key. -/
def explicitKey (l : Lexer) : Except Error Lexer := do
  if !l.inFlow && !l.keyAllowed then l.cursor.fail .misplacedKey
  else
    let l ← (l.openBlock .blockMappingStart l.mark none).dropCandidate
    .ok ((l.allowKey (!l.inFlow)).punctuation .key 1)

/-- A colon before a value. It makes the candidate a key. -/
def value (l : Lexer) : Except Error Lexer :=
  match l.candidate with
  | some candidate =>
    let l := l.putBefore candidate.number ⟨.key, candidate.mark.line⟩
    let l := l.openBlock .blockMappingStart candidate.mark (some candidate.number)
    .ok (((l.setCandidate none).allowKey false).punctuation .value 1)
  | none =>
    if !l.inFlow && !l.keyAllowed then l.cursor.fail .misplacedValue
    else
      let l := l.openBlock .blockMappingStart l.mark none
      .ok ((l.allowKey (!l.inFlow)).punctuation .value 1)

/-- A token that may start a key and after which none may start. -/
def simple (l : Lexer) (scan : Cursor → Except Error (TokenKind × Cursor)) :
    Except Error Lexer := do
  let l ← l.saveCandidate
  let (kind, cursor) ← scan l.cursor
  .ok { l.put kind l.mark.line with cursor, keyAllowed := false }

/-- A block scalar. A key may start after it. -/
def blockScalar (l : Lexer) (literal : Bool) : Except Error Lexer := do
  let l ← l.dropCandidate
  let (text, cursor) ← Block.scan literal l.indents.head? l.cursor
  .ok { l.put (.scalar text false) l.mark.line with cursor, keyAllowed := true }

/-- A quoted scalar. -/
def quotedScalar (l : Lexer) (single : Bool) : Except Error Lexer :=
  l.simple fun c => do
    let (text, cursor) ← Quoted.scan single c
    .ok (.scalar text false, cursor)

/-- A plain scalar. A key may start after it if it ends with a line. -/
def plainScalar (l : Lexer) : Except Error Lexer := do
  let l ← l.saveCandidate
  let indent := (l.indents.head?.map (· + 1)).getD 0
  let scanned ← Plain.scan ⟨l.inFlow, indent⟩ l.cursor
  .ok { l.put (.scalar scanned.text true) l.mark.line with
    cursor := scanned.cursor, keyAllowed := scanned.broken }

/-! ## Any token -/

/-- Whether a plain scalar may begin with a character, given what follows it. -/
def beginsPlain (inFlow : Bool) (c : Char) (rest : List Char) : Bool :=
  !(isBlank c || "-?:,[]\x7b\x7d#&*!|>'\"%@\x60".toList.contains c)
    || (c == '-' && !rest.head?.any isBlank)
    || (!inFlow && (c == '?' || c == ':') && !atWordEnd rest)

/-- The next token at its start, and those that it implies. -/
def fetchHere (l : Lexer) : Except Error Lexer :=
  let column := l.mark.column
  match l.cursor.rest with
  | [] => l.streamEnd
  | c :: rest =>
    if column == 0 && c == '%' then l.directive
    else if column == 0 && isDocumentMarker (c :: rest) then
      l.documentMarker (if c == '-' then .documentStart else .documentEnd)
    else if c == '[' then l.flowStart .flowSequenceStart
    else if c == '\x7b' then l.flowStart .flowMappingStart
    else if c == ']' then l.flowEnd .flowSequenceEnd
    else if c == '\x7d' then l.flowEnd .flowMappingEnd
    else if c == ',' then l.flowEntry
    else if c == '-' && atWordEnd rest then l.blockEntry
    else if c == '?' && (l.inFlow || atWordEnd rest) then l.explicitKey
    else if c == ':' && (l.inFlow || atWordEnd rest) then l.value
    else if c == '*' then l.simple fun c => do
      let (name, cursor) ← scanName c
      .ok (.alias name, cursor)
    else if c == '&' then l.simple fun c => do
      let (name, cursor) ← scanName c
      .ok (.anchor name, cursor)
    else if c == '!' then
      let inFlow := l.inFlow
      l.simple fun c => do
        let (tag, cursor) ← scanTag inFlow c
        .ok (.tag tag, cursor)
    else if c == '|' && !l.inFlow then l.blockScalar true
    else if c == '>' && !l.inFlow then l.blockScalar false
    else if c == '\'' then l.quotedScalar true
    else if c == '"' then l.quotedScalar false
    else if beginsPlain l.inFlow c rest then l.plainScalar
    else l.cursor.fail .unexpectedCharacter

/-- The next token, and those that it implies. -/
def fetch (l : Lexer) : Except Error Lexer := do
  let l ← l.toNextToken.dropStale
  let l ← (l.closeBlocks (some l.mark.column)).fetchHere
  l.dropStale

/-- Whether the end of the text is reached. -/
def isDone (l : Lexer) : Bool := l.tokens.head?.any (·.kind == .streamEnd)

/-- The tokens up to the end of the text, or those that are settled when a fault shows. Every token
takes a character, so `steps` need not be more than there are characters, and one. -/
def run (l : Lexer) : (steps : Nat) → List Token × Option Error
  | 0 => (l.tokens.reverse, none)
  | steps + 1 =>
    match l.fetch with
    | .error e => ((l.tokens.drop (l.count - l.settled)).reverse, some e)
    | .ok l => if l.isDone then (l.tokens.reverse, none) else run l steps

end Lexer

/-- Whether a character may stand in a text at all. -/
def isAllowed (c : Char) : Bool :=
  let n := c.toNat
  n = 0x9 || n = 0xA || n = 0xD || (0x20 ≤ n && n ≤ 0x7E) || n = 0x85
    || (0xA0 ≤ n && n ≤ 0xD7FF) || (0xE000 ≤ n && n ≤ 0xFFFD) || 0x10000 ≤ n

/-- The settled tokens of a text, and the fault that ends them if there is one. A control character
anywhere is a fault of the first line. -/
def tokensOf (text : List Char) : List Token × Option Error :=
  if text.all isAllowed then (Lexer.start text).run (text.length + 1)
  else ([], some ⟨.controlCharacter, some Mark.start.line⟩)

end Folio.Yaml
