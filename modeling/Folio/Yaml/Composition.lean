import Folio.Yaml.Event
import Folio.Yaml.Lexer
import Folio.Yaml.Resolution

/-!
# From events to values

An alias stands for the node that has its anchor, and its value is put together anew each time. So
the depth of a value and the number of aliases that are followed are limited.

Main definitions:

* `Anchored.ofEvents`: the events of a document with its anchors resolved.
* `Composer.node`: the value of the node at the head of some events.
* `parse`: the value of a text that holds at most one document.
-/

namespace Folio.Yaml

/-! ## Anchors -/

/-- The events of a document with numbers for anchors. -/
structure Anchored where
  events : List (Event Nat)
  /-- For each number the events from a node on that has it. The last one put comes first. -/
  nodes : List (Nat × List (Event Nat))
  /-- The fault that ends the events, if there is one. -/
  fault : Option Error

/-- The anchors of a document so far: their names with their numbers, the last put first. -/
abbrev Names := List (List Char × Nat)

/-- The names with an anchor put. Its number is how many different names there were. -/
def Names.put (names : Names) (name : List Char) : Nat × Names :=
  (names.length, (name, names.length) :: names.filter (·.1 != name))

/-- The anchor of a node with its number, and the names with it. -/
def Names.resolve (names : Names) : Option (List Char) → Option Nat × Names
  | none => (none, names)
  | some name => let (number, names) := names.put name; (some number, names)

/-- The events with numbers for anchors, in reverse, up to the first alias without an anchor. -/
def numberAnchors (names : Names) (done : List (Event Nat)) (fault : Option Error) :
    List (Event (List Char)) → List (Event Nat) × Option Error
  | [] => (done, fault)
  | ⟨kind, line⟩ :: rest =>
    match kind with
    | .alias name =>
      match names.lookup name with
      | some number => numberAnchors names (⟨.alias number, line⟩ :: done) fault rest
      | none => (done, some ⟨.unknownAnchor, some line⟩)
    | .scalar anchor tag text plain =>
      let (number, names) := names.resolve anchor
      numberAnchors names (⟨.scalar number tag text plain, line⟩ :: done) fault rest
    | .sequenceStart anchor tag =>
      let (number, names) := names.resolve anchor
      numberAnchors names (⟨.sequenceStart number tag, line⟩ :: done) fault rest
    | .mappingStart anchor tag =>
      let (number, names) := names.resolve anchor
      numberAnchors names (⟨.mappingStart number tag, line⟩ :: done) fault rest
    | .sequenceEnd => numberAnchors names (⟨.sequenceEnd, line⟩ :: done) fault rest
    | .mappingEnd => numberAnchors names (⟨.mappingEnd, line⟩ :: done) fault rest

/-- The number of the anchor on an event. -/
def Event.anchor? (event : Event Nat) : Option Nat :=
  match event.kind with
  | .scalar anchor .. => anchor
  | .sequenceStart anchor _ => anchor
  | .mappingStart anchor _ => anchor
  | _ => none

/-- The nodes with anchors among events, with what was found before. -/
def anchoredNodes (found : List (Nat × List (Event Nat))) :
    List (Event Nat) → List (Nat × List (Event Nat))
  | [] => found
  | event :: rest =>
    match event.anchor? with
    | some number => anchoredNodes ((number, event :: rest) :: found) rest
    | none => anchoredNodes found rest

/-- The events of a document with numbers for anchors. A number that was given twice stands for
the later node. -/
def Anchored.ofEvents (events : List (Event (List Char))) (fault : Option Error) : Anchored :=
  let (reversed, fault) := numberAnchors [] [] fault events
  let events := reversed.reverse
  ⟨events, anchoredNodes [] events, fault⟩

/-! ## Nodes -/

/-- The greatest number of collections inside one another. -/
def depthLimit : Nat := 128

/-- How many aliases may be followed for each event. -/
def aliasesPerEvent : Nat := 100

/-- What stays the same while a document is put together. -/
structure Composer where
  nodes : List (Nat × List (Event Nat))
  /-- The fault at which the events end. -/
  ended : Error
  /-- The number of events. No collection has more items. -/
  size : Nat
  /-- How many aliases may be followed. -/
  aliasLimit : Nat

/-- A value with the events after it and the number of aliases followed so far. -/
structure Composed (α : Type) where
  value : α
  rest : List (Event Nat)
  aliases : Nat

/-- The value with a tag of the document's own, if there is such a tag. -/
def withTag (tag : Option Tag) (value : Value) : Value :=
  match tag with
  | some (.named name) => .tagged name value
  | _ => value

namespace Composer

mutual

/-- The value of the node at the head of events. -/
def node (c : Composer) (depth aliases : Nat) (events : List (Event Nat)) :
    Except Error (Composed Value) :=
  match events with
  | ⟨.alias number, line⟩ :: rest =>
    if c.aliasLimit ≤ aliases then .error ⟨.tooManyAliases, none⟩
    else
      match c.nodes.lookup number with
      | some target =>
        (c.ownNode depth (aliases + 1) target).map fun composed => { composed with rest }
      | none => .error ⟨.unknownAnchor, some line⟩
  | events => c.ownNode depth aliases events
termination_by (depth, 1)

/-- The value of a node that is no alias. -/
def ownNode (c : Composer) (depth aliases : Nat) (events : List (Event Nat)) :
    Except Error (Composed Value) :=
  match events with
  | [] => .error c.ended
  | ⟨kind, line⟩ :: rest =>
    match kind with
    | .scalar _ tag text plain => (resolve line tag text plain).map fun v => ⟨v, rest, aliases⟩
    | .sequenceStart _ tag =>
      match depth with
      | 0 => .error ⟨.tooDeep, some line⟩
      | depth + 1 =>
        (c.items depth aliases c.size [] rest).map fun composed =>
          { composed with value := withTag tag composed.value }
    | .mappingStart _ tag =>
      match depth with
      | 0 => .error ⟨.tooDeep, some line⟩
      | depth + 1 =>
        (c.entries depth aliases c.size line [] rest).map fun composed =>
          { composed with value := withTag tag composed.value }
    | .alias _ | .sequenceEnd | .mappingEnd => .error c.ended
termination_by (depth, 0)

/-- The items of a sequence after those already done, which are in reverse. -/
def items (c : Composer) (depth aliases left : Nat) (done : List Value)
    (events : List (Event Nat)) : Except Error (Composed Value) :=
  match left, events with
  | _, ⟨.sequenceEnd, _⟩ :: rest => .ok ⟨.sequence done.reverse, rest, aliases⟩
  | 0, _ => .error c.ended
  | left + 1, events => do
    let item ← c.node depth aliases events
    c.items depth item.aliases left (item.value :: done) item.rest
termination_by (depth, left + 2)

/-- The entries of a mapping that starts on a line after those already done, which are in reverse.
A key is a fault as soon as it is read if the mapping has it already. -/
def entries (c : Composer) (depth aliases left line : Nat) (done : List (Value × Value))
    (events : List (Event Nat)) : Except Error (Composed Value) :=
  match left, events with
  | _, ⟨.mappingEnd, _⟩ :: rest => .ok ⟨.mapping done.reverse, rest, aliases⟩
  | 0, _ => .error c.ended
  | left + 1, events => do
    let key ← c.node depth aliases events
    if done.any fun entry => entry.1.same key.value then .error ⟨.repeatedKey, some line⟩
    else
      let value ← c.node depth key.aliases key.rest
      c.entries depth value.aliases left line ((key.value, value.value) :: done) value.rest
termination_by (depth, left + 2)

end

end Composer

/-! ## Texts -/

/-- The value of a document. One without events is a null. -/
def Document.value (d : Document) : Except Error Value := do
  let anchored := Anchored.ofEvents d.events d.fault
  if anchored.events.isEmpty && anchored.fault.isNone then .ok .null
  else
    let size := anchored.events.length
    let ended := anchored.fault.getD ⟨.expectedNode, none⟩
    let c : Composer := ⟨anchored.nodes, ended, size, aliasesPerEvent * size⟩
    let composed ← c.node depthLimit 0 anchored.events
    match anchored.fault with
    | some e => .error e
    | none => .ok composed.value

/-- The value of a text that holds at most one document. -/
def parse (text : List Char) : Except Error Value := do
  let (tokens, fault) := tokensOf text
  let document := Document.ofTokens tokens fault
  let value ← document.value
  if document.more then .error ⟨.severalDocuments, none⟩ else .ok value

end Folio.Yaml
