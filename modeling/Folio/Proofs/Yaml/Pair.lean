import Folio.Yaml.Composition

/-!
# Documents of one pair

A document that is a mapping of one plain scalar to another holds what the two scalars stand for.

Results:

* `Composer.node_scalar`: the value of a scalar among events.
* `value_pair`: the value of a document of one pair.
-/

namespace Folio.Yaml

theorem Composer.node_scalar (c : Composer) (depth aliases : Nat) (anchor : Option Nat)
    (tag : Option Tag) (text : List Char) (plain : Bool) (line : Nat) (rest : List (Event Nat)) :
    c.node depth aliases (⟨.scalar anchor tag text plain, line⟩ :: rest) =
      (resolve line tag text plain).map fun v => ⟨v, rest, aliases⟩ := by
  rw [node, ownNode]
  simp

/-- The document of a line with a key and a value. -/
def pair (key value : List Char) : Document where
  events := [⟨.mappingStart none none, 1⟩, ⟨.scalar none none key true, 1⟩,
    ⟨.scalar none none value true, 1⟩, ⟨.mappingEnd, 2⟩]
  fault := none
  more := false

theorem value_pair {key value : List Char} {k v : Value}
    (hkey : resolve 1 none key true = .ok k) (hvalue : resolve 1 none value true = .ok v) :
    (pair key value).value = .ok (.mapping [(k, v)]) := by
  have hanchored : Anchored.ofEvents (pair key value).events (pair key value).fault =
      ⟨[⟨.mappingStart none none, 1⟩, ⟨.scalar none none key true, 1⟩,
        ⟨.scalar none none value true, 1⟩, ⟨.mappingEnd, 2⟩], [], none⟩ := rfl
  rw [Document.value, hanchored]
  simp only [List.isEmpty_cons, Bool.false_and, Bool.false_eq_true, if_false, List.length_cons,
    List.length_nil, depthLimit, Composer.node, Composer.ownNode, Composer.entries,
    Composer.node_scalar, hkey, hvalue, bind, Except.bind, Except.map, withTag, List.any_nil]
  rfl

end Folio.Yaml
