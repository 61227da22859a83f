import Folio.Yaml.Tag
import Folio.Yaml.Token

/-!
# Events of a YAML document

A document is read as the events on a walk through its nodes. Collections are known by their first
and last event, so events stand in the order of the text and break off where a fault shows.

Main definitions:

* `Event`: a scalar, an alias, or the start or the end of a collection.
* `Document`: the events of the first document of a text.
* `Document.ofTokens`: the document that tokens stand for.
-/

namespace Folio.Yaml

/-- What an event is. Anchors are given by names or, once they are resolved, by numbers. -/
inductive EventKind (α : Type) where
  | alias (anchor : α)
  | scalar (anchor : Option α) (tag : Option Tag) (text : List Char) (plain : Bool)
  | sequenceStart (anchor : Option α) (tag : Option Tag)
  | sequenceEnd
  | mappingStart (anchor : Option α) (tag : Option Tag)
  | mappingEnd
  deriving Repr, Inhabited

/-- An event with the line on which it starts. -/
structure Event (α : Type) where
  kind : EventKind α
  line : Nat
  deriving Repr, Inhabited

/-- The events of the first document of a text. -/
structure Document where
  events : List (Event (List Char))
  /-- The fault that ends the document, if it does not end well. -/
  fault : Option Error
  /-- Whether anything but the end of the text follows the document. -/
  more : Bool
  deriving Inhabited

/-! ## Walking through tokens -/

/-- What is to be read next. -/
inductive Expected where
  /-- The root of a document. -/
  | root
  /-- The root of a document after its marker, where it may be missing. -/
  | content
  /-- An entry of a block sequence or its end. -/
  | blockEntry
  /-- An entry of a sequence that is not indented, or what ends it. -/
  | bareEntry
  /-- A key of a block mapping or its end. -/
  | blockKey
  /-- The value of a key of a block mapping. -/
  | blockValue
  /-- An item of a flow sequence or its end. -/
  | flowItem (first : Bool)
  /-- The key of a mapping that is an item of a flow sequence. -/
  | pairKey
  /-- The value of such a key. -/
  | pairValue
  /-- The end of such a mapping. -/
  | pairEnd
  /-- A key of a flow mapping or its end. -/
  | flowKey (first : Bool)
  /-- The value of a key of a flow mapping. -/
  | flowValue
  /-- The value of a key of a flow mapping that has none. -/
  | noValue
  deriving DecidableEq, Repr

/-- A walk through the tokens of a document. -/
structure Walk where
  tokens : List Token
  /-- What is to be read next, and after that. -/
  expected : List Expected
  /-- In reverse. -/
  events : List (Event (List Char))

/-- What stays the same on a walk. -/
structure Surroundings where
  handles : Tag.Handles
  /-- The fault at which the tokens end. -/
  ended : Error

namespace Walk

/-- The next token, left where it is. -/
def peek (s : Surroundings) : List Token → Except Error Token
  | token :: _ => .ok token
  | [] => .error s.ended

/-- A fault that shows at a token. -/
def fail (token : Token) (problem : Problem) : Except Error α :=
  .error ⟨problem, some token.line⟩

/-- The walk after an event. -/
def emit (w : Walk) (kind : EventKind (List Char)) (line : Nat) : Walk :=
  { w with events := ⟨kind, line⟩ :: w.events }

/-- The walk after an empty scalar. -/
def emitEmpty (w : Walk) (line : Nat) : Walk := w.emit (.scalar none none [] true) line

/-- The walk without its next token. -/
def skip (w : Walk) : Walk := { w with tokens := w.tokens.drop 1 }

/-- The walk with something more to be read first. -/
def expect (w : Walk) (expected : Expected) : Walk :=
  { w with expected := expected :: w.expected }

/-- The anchor and the tag before a node, in either order, each with its line. -/
def properties (s : Surroundings) (w : Walk) :
    Except Error (Option (List Char × Nat) × Option (RawTag × Nat) × Walk) := do
  let first ← peek s w.tokens
  match first.kind with
  | .anchor name =>
    let w := w.skip
    let second ← peek s w.tokens
    match second.kind with
    | .tag tag => .ok (some (name, first.line), some (tag, second.line), w.skip)
    | _ => .ok (some (name, first.line), none, w)
  | .tag tag =>
    let w := w.skip
    let second ← peek s w.tokens
    match second.kind with
    | .anchor name => .ok (some (name, first.line), some (tag, first.line), w.skip)
    | _ => .ok (none, some (tag, first.line), w)
  | _ => .ok (none, none, w)

/-- The bytes of the tag before a node. -/
def expandTag (s : Surroundings) : Option (RawTag × Nat) → Except Error (Option (List UInt8))
  | none => .ok none
  | some (raw, line) =>
    match Tag.expand s.handles raw with
    | some bytes => .ok (some bytes)
    | none => .error ⟨.undefinedHandle, some line⟩

/-- Where a node stands. -/
inductive Place where
  /-- In a flow collection. -/
  | flow
  /-- In a block collection. -/
  | block
  /-- In a block mapping, where a sequence need not be indented. -/
  | mapping
  deriving DecidableEq

/-- A node: an alias, a scalar, or the start of a collection. A node with an anchor or a tag may be
empty. -/
def node (s : Surroundings) (place : Place) (w : Walk) : Except Error Walk := do
  let token ← peek s w.tokens
  match token.kind with
  | .alias name => .ok (w.skip.emit (.alias name) token.line)
  | _ =>
    let (anchor, tag, w) ← properties s w
    let line := (anchor.map (·.2) <|> tag.map (·.2)).getD token.line
    let next ← peek s w.tokens
    let bytes ← expandTag s tag
    let name := anchor.map (·.1)
    let meaning := bytes.bind Tag.ofBytes
    match next.kind with
    | .scalar text plain =>
      if bytes == some [bang] then .ok (w.skip.emit (.scalar name none text plain) line)
      else .ok (w.skip.emit (.scalar name meaning text plain) line)
    | .flowSequenceStart =>
      .ok ((w.skip.emit (.sequenceStart name meaning) line).expect (.flowItem true))
    | .flowMappingStart =>
      .ok ((w.skip.emit (.mappingStart name meaning) line).expect (.flowKey true))
    | kind =>
      if place = .mapping && kind = .blockEntry then
        .ok ((w.emit (.sequenceStart name meaning) line).expect .bareEntry)
      else if place ≠ .flow && kind = .blockSequenceStart then
        .ok ((w.skip.emit (.sequenceStart name meaning) line).expect .blockEntry)
      else if place ≠ .flow && kind = .blockMappingStart then
        .ok ((w.skip.emit (.mappingStart name meaning) line).expect .blockKey)
      else if name.isSome || bytes.isSome then .ok (w.emit (.scalar name meaning [] true) line)
      else fail next .expectedNode

/-- A node, or an empty scalar if the next token already belongs to what follows. -/
def nodeUnless (s : Surroundings) (place : Place) (ends : List TokenKind) (w : Walk) :
    Except Error Walk := do
  let token ← peek s w.tokens
  if ends.contains token.kind then .ok (w.emitEmpty token.line) else node s place w

/-- The walk after the comma before all items but the first. -/
def comma (s : Surroundings) (first : Bool) (w : Walk) : Except Error Walk := do
  let token ← peek s w.tokens
  if first then .ok w
  else if token.kind = .flowEntry then .ok w.skip
  else fail token .expectedEntry

/-- One step of a walk, on which `expected` is read. -/
def step (s : Surroundings) (expected : Expected) (w : Walk) : Except Error Walk := do
  let token ← peek s w.tokens
  match expected with
  | .root => node s .block w
  | .content =>
    match token.kind with
    | .versionDirective .. | .tagDirective .. => .ok (w.emitEmpty token.line)
    | _ => nodeUnless s .block [.documentStart, .documentEnd, .streamEnd] w
  | .blockEntry =>
    match token.kind with
    | .blockEntry => nodeUnless s .block [.blockEntry, .blockEnd] (w.skip.expect .blockEntry)
    | .blockEnd => .ok (w.skip.emit .sequenceEnd token.line)
    | _ => fail token .expectedEntry
  | .bareEntry =>
    match token.kind with
    | .blockEntry =>
      nodeUnless s .block [.blockEntry, .key, .value, .blockEnd] (w.skip.expect .bareEntry)
    | _ => .ok (w.emit .sequenceEnd token.line)
  | .blockKey =>
    match token.kind with
    | .key => nodeUnless s .mapping [.key, .value, .blockEnd] (w.skip.expect .blockValue)
    | .blockEnd => .ok (w.skip.emit .mappingEnd token.line)
    | _ => fail token .expectedEntry
  | .blockValue =>
    let w := w.expect .blockKey
    match token.kind with
    | .value => nodeUnless s .mapping [.key, .value, .blockEnd] w.skip
    | _ => .ok (w.emitEmpty token.line)
  | .flowItem first =>
    if token.kind = .flowSequenceEnd then .ok (w.skip.emit .sequenceEnd token.line)
    else
      let w ← comma s first w
      let token ← peek s w.tokens
      match token.kind with
      | .key =>
        .ok (((w.skip.emit (.mappingStart none none) token.line).expect (.flowItem false)).expect
          .pairKey)
      | .flowSequenceEnd => .ok (w.skip.emit .sequenceEnd token.line)
      | _ => node s .flow (w.expect (.flowItem false))
  | .pairKey =>
    let w := w.expect .pairValue
    match token.kind with
    | .value | .flowEntry | .flowSequenceEnd => .ok (w.skip.emitEmpty token.line)
    | _ => node s .flow w
  | .pairValue =>
    let w := w.expect .pairEnd
    match token.kind with
    | .value => nodeUnless s .flow [.flowEntry, .flowSequenceEnd] w.skip
    | _ => .ok (w.emitEmpty token.line)
  | .pairEnd => .ok (w.emit .mappingEnd token.line)
  | .flowKey first =>
    if token.kind = .flowMappingEnd then .ok (w.skip.emit .mappingEnd token.line)
    else
      let w ← comma s first w
      let token ← peek s w.tokens
      match token.kind with
      | .key =>
        nodeUnless s .flow [.value, .flowEntry, .flowMappingEnd] (w.skip.expect .flowValue)
      | .flowMappingEnd => .ok (w.skip.emit .mappingEnd token.line)
      | _ => node s .flow (w.expect .noValue)
  | .flowValue =>
    let w := w.expect (.flowKey false)
    match token.kind with
    | .value => nodeUnless s .flow [.flowEntry, .flowMappingEnd] w.skip
    | _ => .ok (w.emitEmpty token.line)
  | .noValue => .ok ((w.expect (.flowKey false)).emitEmpty token.line)

/-- Walks until nothing is expected any more, or to a fault. -/
def run (s : Surroundings) : (steps : Nat) → Walk → Walk × Option Error
  | 0, w => (w, some s.ended)
  | steps + 1, w =>
    match w.expected with
    | [] => (w, none)
    | expected :: rest =>
      match step s expected { w with expected := rest } with
      | .ok w => run s steps w
      | .error e => (w, some e)

end Walk

/-! ## Documents -/

/-- The handles that directives before a document define, with the tokens after them. -/
def directives (s : Surroundings) (versioned : Bool) :
    List Token → Except Error (Tag.Handles × List Token)
  | [] => .error s.ended
  | token :: rest =>
    match token.kind with
    | .versionDirective major minor =>
      if versioned then Walk.fail token .repeatedDirective
      else if major = 1 && (minor = 1 || minor = 2) then directives s true rest
      else Walk.fail token .unsupportedVersion
    | .tagDirective handle lead =>
      if (s.handles.lookup handle).isSome then Walk.fail token .repeatedDirective
      else directives { s with handles := s.handles ++ [(handle, lead)] } versioned rest
    | _ => .ok (s.handles, token :: rest)

namespace Document

/-- A document that ends with a fault before its first event. -/
def broken (e : Error) : Document := ⟨[], some e, false⟩

/-- Whether anything but ends of documents is left before the end of the text. -/
def hasMore : List Token → Bool
  | [] => true
  | token :: rest =>
    if token.kind = .documentEnd then hasMore rest else token.kind ≠ .streamEnd

/-- The document whose root is expected next. -/
def walk (s : Surroundings) (first : Expected) (tokens : List Token) : Document :=
  let (w, fault) := Walk.run s (4 * tokens.length + 8) ⟨tokens, [first], []⟩
  match fault, w.tokens with
  | some e, _ => ⟨w.events.reverse, some e, false⟩
  | none, [] => ⟨w.events.reverse, some s.ended, false⟩
  | none, rest => ⟨w.events.reverse, none, hasMore rest⟩

/-- The document that tokens stand for. They may break off with a fault. A text of no tokens is a
document of no events. -/
def ofTokens (tokens : List Token) (fault : Option Error) : Document :=
  let ended := fault.getD ⟨.expectedNode, none⟩
  match tokens with
  | [] => broken ended
  | first :: _ =>
    match first.kind with
    | .streamEnd => ⟨[], none, false⟩
    | .versionDirective .. | .tagDirective .. | .documentStart =>
      match directives ⟨[], ended⟩ false tokens with
      | .error e => broken e
      | .ok (handles, tokens) =>
        match tokens with
        | [] => broken ended
        | token :: rest =>
          if token.kind = .documentStart then
            walk ⟨handles ++ Tag.Handles.default, ended⟩ .content rest
          else broken ⟨.expectedDocument, some token.line⟩
    | _ => walk ⟨.default, ended⟩ .root tokens

end Document

end Folio.Yaml
