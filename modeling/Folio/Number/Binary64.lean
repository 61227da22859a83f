/-!
# Double-precision numbers in exact arithmetic

A finite double is `± mantissa · 2 ^ exponent`. Reading a decimal rounds it to the nearest double,
a tie to the even mantissa, and writing a double gives the shortest decimal that reads back. Both
work on natural numbers only.

Main definitions:

* `Binary64.nearest`: the double nearest to a quotient.
* `Binary64.ofDecimal`: the double nearest to `digits · 10 ^ exponent`.
* `Binary64.shortest`: the shortest decimal in the rounding interval of a double, and of those
  the nearest to it.
* `Binary64.text`: the text of a double in a `FloatStyle`.
-/

namespace Folio

/-- A double-precision number. -/
inductive Binary64 where
  /-- The number `mantissa · 2 ^ exponent`, negated if `negative`. -/
  | finite (negative : Bool) (mantissa : Nat) (exponent : Int)
  | infinite (negative : Bool)
  | nan
  deriving DecidableEq, Repr, Inhabited

namespace Binary64

/-! ## Powers with integer exponents -/

/-- `base ^ exponent` as a numerator and a denominator. -/
def power (base : Nat) (exponent : Int) : Nat × Nat :=
  if 0 ≤ exponent then (base.pow exponent.toNat, 1) else (1, base.pow (-exponent).toNat)

/-- The natural number nearest to `num / den`, a half going to the even neighbour. -/
def roundHalfEven (num den : Nat) : Nat :=
  let floor := num / den
  let rest := 2 * (num % den)
  if rest < den then floor
  else if den < rest then floor + 1
  else if floor % 2 = 0 then floor else floor + 1

/-! ## Reading -/

/-- The exponent of the least double interval that `num / den` falls into: the mantissa then has
53 bits, or fewer at the least exponent. -/
def exponentFor (num den : Nat) : Int :=
  let guess : Int := (Nat.log2 num : Int) - Nat.log2 den - 52
  let (p, q) := power 2 guess
  let exponent := if num * q < Nat.pow 2 52 * (den * p) then guess - 1 else guess
  max exponent (-1074)

/-- The mantissa and exponent of the double nearest to a quotient, if it is in range. -/
def nearest (num den : Nat) : Option (Nat × Int) :=
  if num = 0 then some (0, -1074)
  else
    let exponent := exponentFor num den
    let (p, q) := power 2 exponent
    let mantissa := roundHalfEven (num * q) (den * p)
    let (mantissa, exponent) :=
      if mantissa = Nat.pow 2 53 then (Nat.pow 2 52, exponent + 1) else (mantissa, exponent)
    if exponent > 971 then none else some (mantissa, exponent)

/-- The double nearest to `digits · 10 ^ exponent`; infinite beyond the largest double. Decimals
far outside the range are settled by their magnitude alone. -/
def ofDecimal (negative : Bool) (digits : Nat) (exponent : Int) : Binary64 :=
  let magnitude : Int := exponent + (Nat.toDigits 10 digits).length
  if digits = 0 || magnitude < -330 then .finite negative 0 (-1074)
  else if magnitude > 310 then .infinite negative
  else
    let (p, q) := power 10 exponent
    match nearest (digits * p) q with
    | some (mantissa, exponent) => .finite negative mantissa exponent
    | none => .infinite negative

/-! ## Shortest decimals -/

/-- The point of the grid `10 ^ k` that is nearest to a double among those in its rounding
interval. The interval reaches half way to the neighbouring doubles, and its ends belong to it iff
the mantissa is even. -/
def onGrid (mantissa : Nat) (exponent k : Int) : Option Nat :=
  let (two, two') := power 2 (exponent - 2)
  let (ten, ten') := power 10 k
  let unit := two * ten'
  let grid := two' * ten
  let value := 4 * mantissa * unit
  let below := if mantissa = Nat.pow 2 52 && exponent > -1074 then 1 else 2
  let low := (4 * mantissa - below) * unit
  let high := (4 * mantissa + 2) * unit
  let fits (point : Nat) : Bool :=
    if mantissa % 2 = 0 then low ≤ point * grid && point * grid ≤ high
    else low < point * grid && point * grid < high
  let floor := value / grid
  match fits floor, fits (floor + 1) with
  | false, false => none
  | true, false => some floor
  | false, true => some (floor + 1)
  | true, true =>
    let toFloor := value - floor * grid
    let toNext := (floor + 1) * grid - value
    if toFloor < toNext then some floor
    else if toNext < toFloor then some (floor + 1)
    else if floor % 2 = 0 then some floor else some (floor + 1)

/-- The first of the grids `10 ^ k, 10 ^ (k - 1), …` with a point in the rounding interval. -/
def coarsest (mantissa : Nat) (exponent : Int) : (grids : Nat) → (k : Int) → Nat × Int
  | 0, k => (0, k)
  | grids + 1, k =>
    match onGrid mantissa exponent k with
    | some point => (point, k)
    | none => coarsest mantissa exponent grids (k - 1)

/-- The shortest decimal `digits · 10 ^ k` that reads back as a finite double other than zero. -/
def shortest (mantissa : Nat) (exponent : Int) : Nat × Int :=
  coarsest mantissa exponent 700 309

/-! ## Writing -/

/-- The decisions that a text of doubles leaves open: which decimal magnitudes are written without
an exponent, and the names of the numbers that have no digits. -/
structure FloatStyle where
  /-- Whether a number `0.d₁d₂… · 10 ^ magnitude` is written without an exponent. -/
  isPositional : (magnitude : Int) → Bool
  infinity : String
  negativeInfinity : String
  notANumber : String

/-- Digits and a decimal exponent written without an exponent, with a digit on either side of the
point. -/
def positional (digits : List Char) (k : Int) : List Char :=
  let magnitude := digits.length + k
  if 0 ≤ k then digits ++ List.replicate k.toNat '0' ++ ['.', '0']
  else if 0 < magnitude then
    digits.take magnitude.toNat ++ '.' :: digits.drop magnitude.toNat
  else ['0', '.'] ++ List.replicate (-magnitude).toNat '0' ++ digits

/-- Digits and a decimal exponent written with an exponent, after one digit before the point. -/
def scientific (digits : List Char) (k : Int) : List Char :=
  let exponent := digits.length + k - 1
  let fraction := if digits.length = 1 then [] else '.' :: digits.drop 1
  digits.take 1 ++ fraction ++ 'e' :: (toString exponent).toList

/-- The text of a double: its shortest decimal, laid out as the style says. -/
def text (style : FloatStyle) : Binary64 → String
  | .nan => style.notANumber
  | .infinite false => style.infinity
  | .infinite true => style.negativeInfinity
  | .finite negative mantissa exponent =>
    let sign := if negative then ['-'] else []
    if mantissa = 0 then .ofList (sign ++ ['0', '.', '0'])
    else
      let (point, k) := shortest mantissa exponent
      let digits := Nat.toDigits 10 point
      let layout := if style.isPositional (digits.length + k) then positional else scientific
      .ofList (sign ++ layout digits k)

/-- Equality as numbers: the two zeros are equal, and so is a number that is not one to itself. -/
def same : Binary64 → Binary64 → Bool
  | .finite n m e, .finite n' m' e' => (m == 0 && m' == 0) || (n == n' && m == m' && e == e')
  | .infinite n, .infinite n' => n == n'
  | .nan, .nan => true
  | _, _ => false

end Binary64

end Folio
