import Folio.Number.Binary64

/-!
# YAML values

Main definitions:

* `Number`, `Value`: what a document holds.
* `Number.text`: a number as text.
* `Value.same`: equality of keys, which does not depend on the order of mappings.
-/

namespace Folio.Yaml

/-- A number. -/
inductive Number where
  | integer (n : Int)
  | float (value : Binary64)
  deriving DecidableEq, Repr, Inhabited

/-- What a document or a part of it holds. -/
inductive Value where
  | null
  | bool (value : Bool)
  | number (value : Number)
  | string (text : String)
  | sequence (items : List Value)
  /-- Keys differ from one another and stand in the order of the text. -/
  | mapping (entries : List (Value × Value))
  /-- A value with a tag of the document's own. -/
  | tagged (tag : String) (value : Value)
  deriving Repr, Inhabited

namespace Number

/-- How doubles are written: without an exponent from five zeros after the point up to sixteen
digits before it. -/
def style : Binary64.FloatStyle where
  isPositional magnitude := -5 < magnitude && magnitude ≤ 16
  infinity := ".inf"
  negativeInfinity := "-.inf"
  notANumber := ".nan"

/-- A number as text. -/
def text : Number → String
  | integer n => toString n
  | float value => value.text style

/-- Equality of numbers. An integer is never equal to a float. -/
def same : Number → Number → Bool
  | integer m, integer n => m == n
  | float a, float b => a.same b
  | _, _ => false

end Number

namespace Value

mutual

/-- Equality of values, in which mappings have no order. -/
def same : Value → Value → Bool
  | null, null => true
  | bool a, bool b => a == b
  | number a, number b => a.same b
  | string a, string b => a == b
  | sequence as, sequence bs => sameItems as bs
  | mapping as, mapping bs => as.length == bs.length && sameEntries as bs
  | tagged s a, tagged t b => s == t && same a b
  | _, _ => false

/-- Equality of the items of two sequences. -/
def sameItems : List Value → List Value → Bool
  | [], [] => true
  | a :: as, b :: bs => same a b && sameItems as bs
  | _, _ => false

/-- Whether every entry of one mapping is in another. -/
def sameEntries : List (Value × Value) → List (Value × Value) → Bool
  | [], _ => true
  | (key, value) :: as, bs =>
    (bs.any fun entry => same key entry.1 && same value entry.2) && sameEntries as bs

end

/-- The value of a key of a mapping given as a text. -/
def field? (entries : List (Value × Value)) (name : String) : Option Value :=
  (entries.find? fun entry => (string name).same entry.1).map (·.2)

/-- A value without its tags. -/
def untagged : Value → Value
  | tagged _ value => untagged value
  | value => value

end Value

end Folio.Yaml
