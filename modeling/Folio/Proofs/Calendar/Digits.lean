import Folio.Calendar.Instant
import Folio.Proofs.Text.Trim
import Mathlib.Tactic.IntervalCases
import Mathlib.Tactic.Ring

/-!
# Reading numbers of a date

A number that is written with a fixed number of digits is read back by every step that takes at
most so many, whatever follows it. Digits of a fraction are read as far as they go, and their value
is cut off after the ninth.

Main definitions:

* `decimal`: a number in a fixed number of digits.
* `withPoint`, `nanosOf`: a fraction of a second in digits, and the nanoseconds that it has.

Results:

* `number_decimal`, `shortNumber_decimal`, `signedYear_decimal`: what the steps read.
* `optionalFraction_withPoint`: a fraction of any length is read, or none.
-/

namespace Folio.Instant

open Unicode (isSpace)

/-! ## Values of digits -/

theorem toNat_of_isDigit {c : Char} (h : c.isDigit) : 48 ≤ c.toNat ∧ c.toNat ≤ 57 := by
  unfold Char.isDigit at h
  rw [Bool.and_eq_true, decide_eq_true_eq, decide_eq_true_eq] at h
  exact ⟨UInt32.le_iff_toNat_le.mp h.1, UInt32.le_iff_toNat_le.mp h.2⟩

theorem isSpace_of_isDigit {c : Char} (h : c.isDigit) : isSpace c = false := by
  have hrange := toNat_of_isDigit h
  have hblank : c ≠ ' ' := by
    rintro rfl
    exact absurd hrange (by decide)
  unfold isSpace
  rw [if_pos (by omega)]
  simp [hblank]
  omega

/-- Digits that come first count for more by as many places as there are after them. -/
theorem foldl_digits (n : Nat) (ds : List Char) :
    ds.foldl (fun n c => 10 * n + (c.toNat - '0'.toNat)) n = n * 10 ^ ds.length + valueOf ds := by
  induction ds generalizing n with
  | nil => simp [valueOf]
  | cons c ds ih =>
    unfold valueOf at ih ⊢
    rw [List.foldl_cons, List.foldl_cons, ih, ih (10 * 0 + _), List.length_cons, pow_succ]
    ring

theorem valueOf_append (ds ds' : List Char) :
    valueOf (ds ++ ds') = valueOf ds * 10 ^ ds'.length + valueOf ds' := by
  show (ds ++ ds').foldl _ 0 = _
  rw [List.foldl_append]
  exact foldl_digits (valueOf ds) ds'

theorem valueOf_singleton (c : Char) : valueOf [c] = c.toNat - 48 := by
  simp [valueOf]

theorem valueOf_lt {ds : List Char} (h : ∀ c ∈ ds, c.isDigit) : valueOf ds < 10 ^ ds.length := by
  induction ds with
  | nil => simp [valueOf]
  | cons c ds ih =>
    rw [List.forall_mem_cons] at h
    have hc := toNat_of_isDigit h.1
    have hds := ih h.2
    have hcons : valueOf (c :: ds) = (c.toNat - 48) * 10 ^ ds.length + valueOf ds := by
      rw [← valueOf_singleton]
      exact valueOf_append [c] ds
    have hle : (c.toNat - 48) * 10 ^ ds.length ≤ 9 * 10 ^ ds.length :=
      Nat.mul_le_mul_right _ (by omega)
    rw [hcons, List.length_cons, pow_succ]
    omega

/-! ## Numbers in digits -/

/-- The last digits of a number, as many as the width says. -/
def decimal : (width n : Nat) → List Char
  | 0, _ => []
  | width + 1, n => decimal width (n / 10) ++ [Nat.digitChar (n % 10)]

@[simp] theorem length_decimal (width n : Nat) : (decimal width n).length = width := by
  induction width generalizing n with
  | zero => rfl
  | succ width ih => rw [decimal, List.length_append, ih, List.length_singleton]

theorem decimal_ne_nil {width n : Nat} (hwidth : 0 < width) : decimal width n ≠ [] := by
  rw [← List.length_pos_iff, length_decimal]
  exact hwidth

theorem isDigit_digitChar {d : Nat} (h : d < 10) : (Nat.digitChar d).isDigit := by
  interval_cases d <;> rfl

theorem valueOf_digitChar {d : Nat} (h : d < 10) : valueOf [Nat.digitChar d] = d := by
  interval_cases d <;> rfl

theorem isDigit_of_mem_decimal {width n : Nat} {c : Char} (h : c ∈ decimal width n) :
    c.isDigit := by
  induction width generalizing n with
  | zero => simp [decimal] at h
  | succ width ih =>
    rw [decimal, List.mem_append, List.mem_singleton] at h
    rcases h with h | rfl
    · exact ih h
    · exact isDigit_digitChar (Nat.mod_lt n (by decide))

theorem isSpace_of_mem_decimal {width n : Nat} {c : Char} (h : c ∈ decimal width n) :
    isSpace c = false :=
  isSpace_of_isDigit (isDigit_of_mem_decimal h)

/-- The digits of a number have its value, if there are enough of them. -/
theorem valueOf_decimal {width n : Nat} (h : n < 10 ^ width) : valueOf (decimal width n) = n := by
  induction width generalizing n with
  | zero =>
    have hn : n = 0 := by simpa using h
    rw [hn]
    rfl
  | succ width ih =>
    have hdiv : n / 10 < 10 ^ width := by
      rw [pow_succ] at h
      omega
    rw [decimal, valueOf_append, ih hdiv, valueOf_digitChar (Nat.mod_lt n (by decide)),
      List.length_singleton]
    omega

/-! ## Steps of reading -/

/-- A step that reads something is followed by the next one. -/
theorem bind_of_eq_some {α β : Type} {x : Option α} {a : α} (h : x = some a) (f : α → Option β) :
    x >>= f = f a := by
  rw [h]
  rfl

/-- Digits are read as far as they go or as they may. -/
theorem digits_append {least most : Nat} {ds rest : List Char} (hds : ∀ c ∈ ds, c.isDigit)
    (hleast : least ≤ ds.length) (hmost : ds.length ≤ most)
    (hend : most = ds.length ∨ ∀ c, rest.head? = some c → c.isDigit = false) :
    digits least most (ds ++ rest) = some (ds, rest) := by
  have hrest : (rest.take (most - ds.length)).takeWhile Char.isDigit = [] := by
    rcases hend with rfl | hend
    · simp
    · cases rest with
      | nil => simp
      | cons c rest =>
        cases most - ds.length with
        | zero => rfl
        | succ k => exact List.takeWhile_cons_of_neg (by simp [hend c rfl])
  have hfound : ((ds ++ rest).take most).takeWhile Char.isDigit = ds := by
    rw [List.take_append, List.take_of_length_le hmost, List.takeWhile_append_of_pos hds, hrest,
      List.append_nil]
  unfold digits
  simp only [hfound]
  rw [if_pos hleast, List.drop_left]

theorem number_decimal {least width n : Nat} (hleast : least ≤ width) (hn : n < 10 ^ width)
    (rest : List Char) : number least width (decimal width n ++ rest) = some (n, rest) := by
  have hlength := length_decimal width n
  unfold number
  rw [digits_append (fun c => isDigit_of_mem_decimal) (by omega) (by omega) (.inl hlength.symm)]
  simp [valueOf_decimal hn]

theorem number_four {n : Nat} (hn : n < 10000) (rest : List Char) :
    number 4 4 (decimal 4 n ++ rest) = some (n, rest) :=
  number_decimal le_rfl hn rest

theorem number_two {n : Nat} (hn : n < 100) (rest : List Char) :
    number 2 2 (decimal 2 n ++ rest) = some (n, rest) :=
  number_decimal le_rfl hn rest

theorem head?_decimal_append {width n : Nat} (hwidth : 0 < width) {rest : List Char} {c : Char}
    (h : (decimal width n ++ rest).head? = some c) : c.isDigit := by
  rw [List.head?_append_of_ne_nil _ (decimal_ne_nil hwidth)] at h
  exact isDigit_of_mem_decimal (List.mem_of_mem_head? h)

/-- A number is not white space, so that none is passed over before it. -/
theorem trimStart_decimal {width n : Nat} (hwidth : 0 < width) (rest : List Char) :
    Text.trimStart (decimal width n ++ rest) = decimal width n ++ rest :=
  Text.trimStart_eq_self fun _ hc => isSpace_of_isDigit (head?_decimal_append hwidth hc)

theorem shortNumber_decimal {n : Nat} (hn : n < 100) (rest : List Char) :
    shortNumber (decimal 2 n ++ rest) = some (n, rest) := by
  unfold shortNumber
  rw [trimStart_decimal (by decide)]
  exact number_decimal (by decide) hn rest

/-- Four digits are a year without a sign. -/
theorem signedYear_decimal {n : Nat} (hn : n < 10000) (rest : List Char) :
    signedYear (decimal 4 n ++ rest) = some ((n : Int), rest) := by
  have hread : number 1 4 (decimal 4 n ++ rest) = some (n, rest) :=
    number_decimal (by decide) hn rest
  unfold signedYear
  rw [trimStart_decimal (by decide)]
  split
  · next hcs => simpa using head?_decimal_append (by decide) (congrArg List.head? hcs)
  · next hcs => simpa using head?_decimal_append (by decide) (congrArg List.head? hcs)
  · rw [hread]
    rfl

/-! ## Marks -/

@[simp] theorem mark_self (c : Char) (rest : List Char) : mark c (c :: rest) = some rest := by
  simp [mark, Text.dropLead, List.isPrefixOf?]

theorem mark_of_ne {c d : Char} (h : c ≠ d) (rest : List Char) : mark c (d :: rest) = none := by
  simp [mark, Text.dropLead, List.isPrefixOf?, h]

/-! ## Fractions -/

/-- The digits of a fraction after their point, or nothing if there are none. -/
def withPoint (ds : List Char) : List Char := if ds = [] then [] else '.' :: ds

/-- The whole nanoseconds of a fraction of a second. -/
def nanosOf (ds : List Char) : Nat := valueOf ds * 10 ^ 9 / 10 ^ ds.length

/-- Nine digits of a fraction, filled up with zeros, are the whole fraction cut off. -/
theorem valueOf_take_nine {ds : List Char} (h : ∀ c ∈ ds, c.isDigit) :
    valueOf (ds.take 9) * Nat.pow 10 (9 - (ds.take 9).length) = nanosOf ds := by
  unfold nanosOf
  rcases Nat.le_total ds.length 9 with hlength | hlength
  · rw [List.take_of_length_le hlength]
    have hpow : 10 ^ 9 = 10 ^ (9 - ds.length) * 10 ^ ds.length := by
      rw [← pow_add, Nat.sub_add_cancel hlength]
    rw [hpow, ← Nat.mul_assoc, Nat.mul_div_cancel _ (Nat.pow_pos (by decide))]
    rfl
  · have htake : (ds.take 9).length = 9 := by
      rw [List.length_take]
      omega
    have hlast : valueOf (ds.drop 9) < 10 ^ (ds.drop 9).length :=
      valueOf_lt fun c hc => h c (List.mem_of_mem_drop hc)
    have hvalue : valueOf ds = valueOf (ds.take 9) * 10 ^ (ds.drop 9).length
        + valueOf (ds.drop 9) := by
      rw [← valueOf_append, List.take_append_drop]
    have hpow : 10 ^ ds.length = 10 ^ (ds.drop 9).length * 10 ^ 9 := by
      rw [← pow_add, List.length_drop, Nat.sub_add_cancel hlength]
    rw [htake, hpow, Nat.mul_div_mul_right _ _ (by decide), hvalue, Nat.add_comm,
      Nat.add_mul_div_right _ _ (Nat.pow_pos (by decide)), Nat.div_eq_of_lt hlast]
    simp

theorem fraction_digits {ds rest : List Char} (hds : ∀ c ∈ ds, c.isDigit) (hne : ds ≠ [])
    (hrest : ∀ c, rest.head? = some c → c.isDigit = false) :
    fraction (ds ++ rest) = some (nanosOf ds, rest) := by
  have hread : digits 1 (ds ++ rest).length (ds ++ rest) = some (ds, rest) :=
    digits_append hds (List.length_pos_iff.mpr hne) (by simp) (.inr hrest)
  unfold fraction
  rw [hread]
  simp only [Option.bind_eq_bind, Option.bind_some]
  rw [valueOf_take_nine hds]

/-- A fraction is read to its last digit, if it is there. -/
theorem optionalFraction_withPoint {ds rest : List Char} (hds : ∀ c ∈ ds, c.isDigit)
    (hrest : ∀ c, rest.head? = some c → c.isDigit = false ∧ c ≠ '.') :
    optionalFraction (withPoint ds ++ rest) = some (nanosOf ds, rest) := by
  unfold optionalFraction withPoint
  split_ifs with hnil
  · rw [hnil, List.nil_append]
    cases rest with
    | nil => rfl
    | cons c rest =>
      rw [mark_of_ne (hrest c rfl).2.symm]
      rfl
  · rw [List.cons_append, mark_self]
    exact fraction_digits hds hnil fun c hc => (hrest c hc).1

end Folio.Instant
