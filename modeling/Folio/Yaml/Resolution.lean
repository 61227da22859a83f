import Folio.Yaml.Error
import Folio.Yaml.Tag
import Folio.Yaml.Value

/-!
# What scalars stand for

A plain scalar without a tag stands for a null, a boolean or a number if it is spelled like one,
and for a string otherwise. All other scalars are strings unless their tag asks for something else.

Main definitions:

* `integer?`, `float?`, `bool?`, `isNull`: the spellings of each kind.
* `resolve`: the value of a scalar.
-/

namespace Folio.Yaml

/-! ## Spellings -/

/-- Whether a text is a null. -/
def isNull (text : List Char) : Bool :=
  ["null", "Null", "NULL", "~"].any fun word => word.toList == text

/-- The boolean that a text spells. -/
def bool? (text : List Char) : Option Bool :=
  if ["true", "True", "TRUE"].any fun word => word.toList == text then some true
  else if ["false", "False", "FALSE"].any fun word => word.toList == text then some false
  else none

/-- The value of digits in a base; there must be at least one. -/
def digits? (base : Nat) (digits : List Char) : Option Nat :=
  if digits.isEmpty then none
  else
    digits.foldlM (fun n c => do
      let digit ← hexValue? c
      if digit < base then some (base * n + digit) else none) 0

/-- The value of digits in a base that their beginning names. -/
def based? : List Char → Option Nat
  | '0' :: 'x' :: digits => digits? 16 digits
  | '0' :: 'o' :: digits => digits? 8 digits
  | '0' :: 'b' :: digits => digits? 2 digits
  | _ => none

/-- A text without a sign at its beginning. -/
def dropSign : List Char → List Char
  | '+' :: rest => rest
  | '-' :: rest => rest
  | cs => cs

/-- Whether a text is digits of which the first of several is a zero. Such a text is no number. -/
def hasLeadingZero (text : List Char) : Bool :=
  match dropSign text with
  | '0' :: c :: rest => (c :: rest).all Char.isDigit
  | _ => false

/-- The value of decimal digits that are no number if they begin with a zero. -/
def decimal? (text digits : List Char) : Option Nat :=
  if hasLeadingZero text then none else digits? 10 digits

/-- The integer that a text spells. -/
def integer? (text : List Char) : Option Int :=
  match text with
  | '+' :: rest => ((based? rest).orElse fun _ => decimal? text rest).map Int.ofNat
  | '-' :: rest =>
    ((based? rest).orElse fun _ => decimal? text rest).map fun (n : Nat) => -(n : Int)
  | _ => ((based? text).orElse fun _ => decimal? text text).map Int.ofNat

/-- The exponent after a letter `e`, if there is a letter. -/
def exponent? : List Char → Option Int
  | [] => some 0
  | c :: rest =>
    if c == 'e' || c == 'E' then
      match rest with
      | '-' :: digits => (digits? 10 digits).map fun (n : Nat) => -(n : Int)
      | '+' :: digits => (digits? 10 digits).map Int.ofNat
      | digits => (digits? 10 digits).map Int.ofNat
    else none

/-- The double nearest to a decimal without a sign: digits with a point among or beside them, and
maybe an exponent. -/
def decimalFloat? (negative : Bool) (text : List Char) : Option Binary64 := do
  let whole := text.takeWhile Char.isDigit
  let rest := text.dropWhile Char.isDigit
  let (fraction, rest) :=
    match rest with
    | '.' :: rest => (rest.takeWhile Char.isDigit, rest.dropWhile Char.isDigit)
    | rest => ([], rest)
  let digits ← digits? 10 (whole ++ fraction)
  let exponent ← exponent? rest
  some (.ofDecimal negative digits (exponent - fraction.length))

/-- The double that a text spells. Decimals beyond the largest double spell none. -/
def float? (text : List Char) : Option Binary64 :=
  let (negative, rest) :=
    match text with
    | '+' :: rest => (false, rest)
    | '-' :: rest => (true, rest)
    | _ => (false, text)
  if [".inf", ".Inf", ".INF"].any fun word => word.toList == rest then some (.infinite negative)
  else if [".nan", ".NaN", ".NAN"].any fun word => word.toList == text then some .nan
  else
    match decimalFloat? negative rest with
    | some (.finite negative mantissa exponent) => some (.finite negative mantissa exponent)
    | _ => none

/-! ## Values -/

/-- The integer as a value. Integers of more than 64 bits are a fault up to 128 bits and no
integers beyond. -/
def integerValue? (line : Nat) (text : List Char) : Option (Except Error Value) :=
  match integer? text with
  | some n =>
    if -Nat.pow 2 63 ≤ n && n < Nat.pow 2 64 then some (.ok (.number (.integer n)))
    else if -Nat.pow 2 127 ≤ n && n < Nat.pow 2 128 then
      some (.error ⟨.integerTooLarge, some line⟩)
    else none
  | none => none

/-- The value of a plain scalar without a tag. -/
def resolvePlain (line : Nat) (text : List Char) : Except Error Value :=
  if text.isEmpty || isNull text then .ok .null
  else
    match bool? text with
    | some b => .ok (.bool b)
    | none =>
      match integerValue? line text with
      | some result => result
      | none =>
        match (if hasLeadingZero text then none else float? text) with
        | some value => .ok (.number (.float value))
        | none => .ok (.string (.ofList text))

/-- The value of a scalar whose tag asks for a kind. -/
def resolveCore (line : Nat) (kind : CoreKind) (text : List Char) : Except Error Value :=
  let mismatch : Except Error Value := .error ⟨.tagMismatch, some line⟩
  match kind with
  | .bool => ((bool? text).map fun b => .ok (.bool b)).getD mismatch
  | .int => (integerValue? line text).getD mismatch
  | .float => ((float? text).map fun x => .ok (.number (.float x))).getD mismatch
  | .null => if isNull text then .ok .null else mismatch

/-- The value of a scalar. -/
def resolve (line : Nat) (tag : Option Tag) (text : List Char) (plain : Bool) :
    Except Error Value :=
  let bare := if plain then resolvePlain line text else .ok (.string (.ofList text))
  match tag with
  | none => bare
  | some (.named name) => bare.map (.tagged name)
  | some (.core kind) => resolveCore line kind text
  | some .other => .ok (.string (.ofList text))

end Folio.Yaml
