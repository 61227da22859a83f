/-!
# What can be wrong with a YAML text

Main definitions:

* `Problem`: the fault.
* `Error`: a fault with the line on which it shows, where there is one.
-/

namespace Folio.Yaml

/-- A fault of a YAML text. -/
inductive Problem where
  /-- A control character. -/
  | controlCharacter
  /-- A key without its colon. -/
  | keyWithoutValue
  /-- A sequence entry where none can stand. -/
  | misplacedEntry
  /-- A key where none can stand. -/
  | misplacedKey
  /-- A value where none can stand. -/
  | misplacedValue
  /-- A character that begins nothing. -/
  | unexpectedCharacter
  /-- An ill-formed directive. -/
  | badDirective
  /-- An ill-formed anchor or alias. -/
  | badAnchor
  /-- An ill-formed tag. -/
  | badTag
  /-- An ill-formed head of a block scalar. -/
  | badBlockHead
  /-- A tab where spaces indent. -/
  | tabIndentation
  /-- A quoted scalar without its closing quote. -/
  | unclosedQuote
  /-- An unknown or ill-formed escape. -/
  | badEscape
  /-- A colon inside a plain scalar before a flow indicator. -/
  | unexpectedColon
  /-- A node is missing or something else stands in its place. -/
  | expectedNode
  /-- An entry, a key or the end of a collection is missing. -/
  | expectedEntry
  /-- The start of a document is missing after directives. -/
  | expectedDocument
  /-- A directive that is given twice. -/
  | repeatedDirective
  /-- A version other than 1.1 and 1.2. -/
  | unsupportedVersion
  /-- A tag handle without a directive. -/
  | undefinedHandle
  /-- An alias without an anchor. -/
  | unknownAnchor
  /-- A key that a mapping has already. -/
  | repeatedKey
  /-- Too many collections inside one another. -/
  | tooDeep
  /-- Too many aliases. -/
  | tooManyAliases
  /-- An integer of more than 64 bits. -/
  | integerTooLarge
  /-- A scalar that is not what its tag says. -/
  | tagMismatch
  /-- More than one document. -/
  | severalDocuments
  deriving DecidableEq, Repr, Inhabited

/-- A fault in words. -/
def Problem.message : Problem → String
  | controlCharacter => "control characters are not allowed"
  | keyWithoutValue => "a key has no value"
  | misplacedEntry => "a sequence entry is not allowed here"
  | misplacedKey => "a key is not allowed here"
  | misplacedValue => "a value is not allowed here"
  | unexpectedCharacter => "nothing can begin with this character"
  | badDirective => "a directive is not well formed"
  | badAnchor => "an anchor or alias is not well formed"
  | badTag => "a tag is not well formed"
  | badBlockHead => "the head of a block scalar is not well formed"
  | tabIndentation => "a tab is used as indentation"
  | unclosedQuote => "a quoted scalar is not closed"
  | badEscape => "an escape sequence is not well formed"
  | unexpectedColon => "a colon is not allowed here"
  | expectedNode => "a value is expected here"
  | expectedEntry => "an entry or the end of the collection is expected here"
  | expectedDocument => "the start of a document is expected here"
  | repeatedDirective => "a directive is repeated"
  | unsupportedVersion => "the version is not supported"
  | undefinedHandle => "a tag handle is not defined"
  | unknownAnchor => "an alias has no anchor"
  | repeatedKey => "a key is repeated"
  | tooDeep => "collections are nested too deeply"
  | tooManyAliases => "there are too many aliases"
  | integerTooLarge => "an integer is too large"
  | tagMismatch => "a scalar is not what its tag says"
  | severalDocuments => "there is more than one document"

/-- A fault with the line on which it shows, counted from 1. A fault of the whole text has none. -/
structure Error where
  problem : Problem
  line : Option Nat
  deriving DecidableEq, Repr, Inhabited

/-- A fault with its line in words. -/
def Error.message (e : Error) : String :=
  match e.line with
  | some line => e.problem.message ++ " at line " ++ Nat.repr line
  | none => e.problem.message

end Folio.Yaml
