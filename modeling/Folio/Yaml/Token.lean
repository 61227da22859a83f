/-!
# Tokens of a YAML text

Main definitions:

* `TokenKind`: what a token is.
* `Token`: a token with the line on which it starts.
-/

namespace Folio.Yaml

/-- A tag as it is written: a handle, which a directive may explain, and the rest of the tag. -/
structure RawTag where
  handle : List UInt8
  suffix : List UInt8
  deriving DecidableEq, Repr, Inhabited

/-- What a token is. -/
inductive TokenKind where
  | streamEnd
  | versionDirective (major minor : Nat)
  | tagDirective (handle lead : List UInt8)
  | documentStart
  | documentEnd
  | blockSequenceStart
  | blockMappingStart
  | blockEnd
  | flowSequenceStart
  | flowSequenceEnd
  | flowMappingStart
  | flowMappingEnd
  | blockEntry
  | flowEntry
  | key
  | value
  | alias (name : List Char)
  | anchor (name : List Char)
  | tag (tag : RawTag)
  | scalar (text : List Char) (plain : Bool)
  deriving DecidableEq, Repr, Inhabited

/-- A token with the line on which it starts. -/
structure Token where
  kind : TokenKind
  line : Nat
  deriving DecidableEq, Repr, Inhabited

end Folio.Yaml
