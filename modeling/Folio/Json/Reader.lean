import Folio.Json.Basic
import Folio.Number.Binary64

/-!
# Reading JSON

A strict reader: one value with white space around it, at most 127 levels deep, whose numbers are
within the range of doubles and whose strings hold no control characters and no half of a
surrogate pair.

Main definition:

* `Json.parse?`: the value that a text spells, if it spells one.
-/

namespace Folio.Json

/-! ## White space -/

/-- White space between tokens. -/
def isBlank (c : Char) : Bool := c == ' ' || c == '\n' || c == '\t' || c == '\r'

/-- The text after the white space it begins with. -/
def skipBlank (cs : List Char) : List Char := cs.dropWhile isBlank

/-! ## Strings -/

/-- The value of a hexadecimal digit. -/
def hexDigit? (c : Char) : Option Nat :=
  if c.isDigit then some (c.toNat - 48)
  else if 'a' ≤ c && c ≤ 'f' then some (c.toNat - 87)
  else if 'A' ≤ c && c ≤ 'F' then some (c.toNat - 55)
  else none

/-- The value of the first `count` characters as hexadecimal digits. -/
def hex? (count : Nat) (cs : List Char) : Option Nat :=
  if cs.length < count then none
  else (cs.take count).foldlM (fun n c => (hexDigit? c).map (16 * n + ·)) 0

/-- The character of a `\u` escape and the number of characters it takes after the `u`. -/
def unicodeEscape? (cs : List Char) : Option (Char × Nat) := do
  let code ← hex? 4 cs
  if 0xD800 ≤ code && code < 0xDC00 then
    match cs.drop 4 with
    | '\\' :: 'u' :: rest =>
      let low ← hex? 4 rest
      if 0xDC00 ≤ low && low < 0xE000 then
        some (Char.ofNat (0x10000 + (code - 0xD800) * 0x400 + (low - 0xDC00)), 10)
      else none
    | _ => none
  else if 0xDC00 ≤ code && code < 0xE000 then none
  else some (Char.ofNat code, 4)

/-- The character of an escape and the number of characters it takes after the backslash. -/
def escape? : List Char → Option (Char × Nat)
  | '"' :: _ => some ('"', 1)
  | '\\' :: _ => some ('\\', 1)
  | '/' :: _ => some ('/', 1)
  | 'b' :: _ => some (Char.ofNat 0x8, 1)
  | 'f' :: _ => some (Char.ofNat 0xC, 1)
  | 'n' :: _ => some ('\n', 1)
  | 'r' :: _ => some ('\r', 1)
  | 't' :: _ => some ('\t', 1)
  | 'u' :: rest => (unicodeEscape? rest).map fun (c, n) => (c, n + 1)
  | _ => none

/-- The rest of a string up to its closing quote, passing over `skip` characters of an escape that
is already read. -/
def stringFrom : (skip : Nat) → List Char → Option (List Char × List Char)
  | _, [] => none
  | skip + 1, _ :: rest => stringFrom skip rest
  | 0, c :: rest =>
    if c = '"' then some ([], rest)
    else if c = '\\' then
      match escape? rest with
      | some (d, n) => (stringFrom n rest).map fun (text, after) => (d :: text, after)
      | none => none
    else if c.toNat < 0x20 then none
    else (stringFrom 0 rest).map fun (text, after) => (c :: text, after)

/-! ## Numbers -/

/-- A decimal significand, cut off where it would leave 64 bits, with its exponent. -/
structure Significand where
  digits : Nat
  exponent : Int

/-- The significand of the digits before and after a point. Digits that no longer fit count as
zeros before the point and are dropped after it. -/
def Significand.ofDigits (whole fraction : List Char) : Significand :=
  let fits (digits : Nat) (c : Char) : Bool := 10 * digits + (c.toNat - 48) < Nat.pow 2 64
  let (digits, extra) := whole.foldl
    (fun (digits, extra) c =>
      if extra = 0 && fits digits c then (10 * digits + (c.toNat - 48), 0)
      else (digits, extra + 1))
    (0, 0)
  let (digits, places, _) := fraction.foldl
    (fun (digits, places, full) c =>
      if !full && fits digits c then (10 * digits + (c.toNat - 48), places + 1, false)
      else (digits, places, true))
    (digits, 0, false)
  ⟨digits, (extra : Int) - (places : Nat)⟩

/-- Whether the double nearest to the significand, scaled by the double nearest to its power of
ten, is finite. -/
def Significand.inRange (s : Significand) : Bool :=
  if s.digits = 0 || s.exponent < 0 then true
  else if s.exponent > 308 then false
  else
    match Binary64.nearest s.digits 1, Binary64.nearest (Nat.pow 10 s.exponent.toNat) 1 with
    | some (m, e), some (m', e') =>
      let (p, q) := Binary64.power 2 (e + e')
      (Binary64.nearest (m * m' * p) q).isSome
    | _, _ => false

/-- The digits of an optional fraction and the text after it. A point needs a digit after it. -/
def fraction? : List Char → Option (List Char × List Char)
  | '.' :: rest =>
    let (digits, rest) := rest.span Char.isDigit
    if digits.isEmpty then none else some (digits, rest)
  | cs => some ([], cs)

/-- The digits of an exponent, which there must be, and the text after it. -/
def exponentDigits? (negative : Bool) (cs : List Char) : Option (Int × List Char) :=
  let (digits, rest) := cs.span Char.isDigit
  if digits.isEmpty then none
  else
    let value : Nat := digits.foldl (fun n c => 10 * n + (c.toNat - 48)) 0
    some (if negative then -(value : Int) else value, rest)

/-- The value of an optional exponent and the text after it. -/
def exponent? : List Char → Option (Int × List Char)
  | 'e' :: '-' :: rest => exponentDigits? true rest
  | 'E' :: '-' :: rest => exponentDigits? true rest
  | 'e' :: '+' :: rest => exponentDigits? false rest
  | 'E' :: '+' :: rest => exponentDigits? false rest
  | 'e' :: rest => exponentDigits? false rest
  | 'E' :: rest => exponentDigits? false rest
  | cs => some (0, cs)

/-- A number without a leading zero before other digits, and within range. -/
def number? (cs : List Char) : Option (Json × List Char) := do
  let unsigned := if cs.head? = some '-' then cs.drop 1 else cs
  let (whole, rest) := unsigned.span Char.isDigit
  if whole.isEmpty || (whole.length > 1 && whole.head? = some '0') then none
  let (fraction, rest) ← fraction? rest
  let (scale, rest) ← exponent? rest
  let significand := Significand.ofDigits whole fraction
  if { significand with exponent := significand.exponent + scale }.inRange then
    some (number (.ofList (cs.take (cs.length - rest.length))), rest)
  else none

/-! ## Values -/

/-- The text after a word that it begins with. -/
def word? (word : String) (value : Json) (cs : List Char) : Option (Json × List Char) :=
  (word.toList.isPrefixOf? cs).map (value, ·)

mutual

/-- One value and the text after it. Arrays and objects need `depth` to be positive and leave one
less to what they hold; `fuel` bounds the steps. -/
def value? : (fuel depth : Nat) → List Char → Option (Json × List Char)
  | 0, _, _ => none
  | fuel + 1, depth, cs =>
    match skipBlank cs with
    | 'n' :: rest => word? "ull" null rest
    | 't' :: rest => word? "rue" (bool true) rest
    | 'f' :: rest => word? "alse" (bool false) rest
    | '"' :: rest => (stringFrom 0 rest).map fun (text, rest) => (string (.ofList text), rest)
    | '[' :: rest =>
      if depth = 0 then none
      else
        match skipBlank rest with
        | ']' :: rest => some (array [], rest)
        | rest => (items? fuel (depth - 1) rest).map fun (items, rest) => (array items, rest)
    | '\x7b' :: rest =>
      if depth = 0 then none
      else
        match skipBlank rest with
        | '\x7d' :: rest => some (object [], rest)
        | rest =>
          (members? fuel (depth - 1) rest).map fun (members, rest) => (object members, rest)
    | cs => number? cs

/-- The items of an array up to its closing bracket. -/
def items? : (fuel depth : Nat) → List Char → Option (List Json × List Char)
  | 0, _, _ => none
  | fuel + 1, depth, cs => do
    let (item, rest) ← value? fuel depth cs
    match skipBlank rest with
    | ',' :: rest =>
      let (items, rest) ← items? fuel depth rest
      some (item :: items, rest)
    | ']' :: rest => some ([item], rest)
    | _ => none

/-- The members of an object up to its closing brace. -/
def members? : (fuel depth : Nat) → List Char → Option (List (String × Json) × List Char)
  | 0, _, _ => none
  | fuel + 1, depth, cs =>
    match skipBlank cs with
    | '"' :: rest => do
      let (name, rest) ← stringFrom 0 rest
      match skipBlank rest with
      | ':' :: rest =>
        let (value, rest) ← value? fuel depth rest
        match skipBlank rest with
        | ',' :: rest =>
          let (members, rest) ← members? fuel depth rest
          some ((.ofList name, value) :: members, rest)
        | '\x7d' :: rest => some ([(.ofList name, value)], rest)
        | _ => none
      | _ => none
    | _ => none

end

/-- Arrays and objects may be nested this deep. -/
def maxDepth : Nat := 127

/-- The value that a text spells, if it spells one. -/
def parse? (cs : List Char) : Option Json := do
  let (value, rest) ← value? (2 * cs.length + 2) maxDepth cs
  if (skipBlank rest).isEmpty then some value else none

end Folio.Json
