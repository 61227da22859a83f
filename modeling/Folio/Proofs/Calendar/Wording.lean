import Folio.Proofs.Calendar.Inverse
import Folio.Proofs.Calendar.Notations

/-!
# Days in words

A text that denotes an instant is shown as the day that contains the instant in universal time, so
that an offset can lead to the day before or after the one that is written. Every other text stays
as it is. A day in words begins with a letter and denotes no instant: it is shown as itself.

Main definitions:

* `Date.Contains`: the instants of a day.
* `Date.wording`: a day in words.

Main result:

* `formatDate_isWording`: how every text is shown.
-/

namespace Folio

open Unicode (isSpace)

/-! ## Instants of a day -/

namespace Date

/-- The day, counted in universal time, in which an instant lies. -/
def Contains (d : Date) (i : Instant) : Prop :=
  ∃ days, d.IsDayNumber days ∧ days * 86400 ≤ i.seconds ∧ i.seconds < (days + 1) * 86400

/-- Every instant lies in one day, before the first day of 1970 as after it. -/
theorem contains_iff {d : Date} {i : Instant} : d.Contains i ↔ d = i.date := by
  unfold Contains Instant.date secondsPerDay
  constructor
  · rintro ⟨days, hdays, hstart, hend⟩
    have hquotient : i.seconds / 86400 = days := by omega
    rw [hquotient]
    exact isDayNumber_iff_eq_ofDays.mp hdays
  · rintro rfl
    exact ⟨i.seconds / 86400, isDayNumber_iff_eq_ofDays.mpr rfl, by omega, by omega⟩

theorem isCalendarDay_date (i : Instant) : i.date.IsCalendarDay := (ofDays_spec _).1

/-! ## Words -/

/-- The English name of a month. -/
def monthName : Nat → String
  | 1 => "January"
  | 2 => "February"
  | 3 => "March"
  | 4 => "April"
  | 5 => "May"
  | 6 => "June"
  | 7 => "July"
  | 8 => "August"
  | 9 => "September"
  | 10 => "October"
  | 11 => "November"
  | 12 => "December"
  | _ => ""

/-- The name of the month, the day as a number and the year in four digits. -/
def wording (d : Date) : String :=
  monthName d.month ++ " " ++ Nat.repr d.day ++ ", " ++ .ofList (Instant.decimal 4 d.year.toNat)

theorem monthNames_getD {month : Nat} (hone : 1 ≤ month) (hmonth : month ≤ 12) :
    monthNames.getD (month - 1) "" = monthName month := by
  interval_cases month <;> rfl

/-- The name of a month begins with a letter. -/
theorem exists_monthName {month : Nat} (hone : 1 ≤ month) (hmonth : month ≤ 12) :
    ∃ c rest, (monthName month).toList = c :: rest ∧ c.isDigit = false ∧ isSpace c = false ∧
      c ≠ '+' ∧ c ≠ '-' := by
  interval_cases month <;> exact ⟨_, _, rfl, by decide⟩

/-- A number in a fixed number of digits is the number with zeros before it. -/
theorem decimal_eq_replicate {width n : Nat} (hwidth : 0 < width) (h : n < 10 ^ width) :
    Instant.decimal width n =
      List.replicate (width - (Nat.toDigits 10 n).length) '0' ++ Nat.toDigits 10 n := by
  induction width, hwidth using Nat.le_induction generalizing n with
  | base =>
    have hdigit : n < 10 := by simpa using h
    rw [Nat.toDigits_of_lt_base hdigit]
    simp [Instant.decimal, Nat.mod_eq_of_lt hdigit]
  | succ width hwidth ih =>
    have hdiv : n / 10 < 10 ^ width := by
      rw [Nat.pow_succ] at h
      omega
    rw [Instant.decimal, ih hdiv]
    by_cases hdigit : n < 10
    · -- The only digit stands for itself, and the zero before it is one of those that fill up.
      rw [Nat.div_eq_of_lt hdigit, Nat.mod_eq_of_lt hdigit, Nat.toDigits_of_lt_base hdigit]
      show List.replicate (width - 1) '0' ++ ['0'] ++ [n.digitChar] = _
      rw [← List.replicate_succ', Nat.sub_add_cancel hwidth]
      rfl
    · have hdigits : Nat.toDigits 10 n = Nat.toDigits 10 (n / 10) ++ [Nat.digitChar (n % 10)] := by
        rw [Nat.toDigits_eq_if (by decide), if_neg hdigit]
      rw [hdigits, List.append_assoc, List.length_append, List.length_singleton,
        Nat.add_sub_add_right]

theorem padded_eq {width n : Nat} (hwidth : 0 < width) (h : n < 10 ^ width) :
    padded width n = .ofList (Instant.decimal width n) := by
  unfold padded Nat.repr
  simp only [String.length_ofList, decimal_eq_replicate hwidth h, String.ofList_append]

/-- A day of a year in four digits is shown in words. -/
theorem text_eq_wording {d : Date} (hd : d.IsCalendarDay) (hfirst : 0 ≤ d.year)
    (hlast : d.year ≤ 9999) : d.text = d.wording := by
  have hyear : yearText d.year = .ofList (Instant.decimal 4 d.year.toNat) := by
    have hlt : d.year.natAbs < 10 ^ 4 := by omega
    have habs : d.year.natAbs = d.year.toNat := by omega
    unfold yearText
    simp only [hfirst, hlast, decide_true, Bool.and_self, if_true]
    rw [padded_eq (by decide) hlt, habs]
  unfold text wording
  rw [monthNames_getD hd.one_le_month hd.month_le, hyear]

end Date

/-! ## Texts that denote no instant -/

namespace Instant

section Head

variable {c : Char} {rest : List Char}

theorem number_eq_none {least most : Nat} (hleast : 0 < least) (hdigit : c.isDigit = false) :
    number least most (c :: rest) = none := by
  have hfound : ((c :: rest).take most).takeWhile Char.isDigit = [] := by
    cases most with
    | zero => rfl
    | succ most => exact List.takeWhile_cons_of_neg (by simp [hdigit])
  unfold number digits
  simp only [hfound]
  rw [if_neg (by simpa using hleast.ne')]
  rfl

theorem trimStart_cons (hspace : isSpace c = false) :
    Text.trimStart (c :: rest) = c :: rest :=
  Text.trimStart_eq_self fun _ hc => Option.some.inj hc ▸ hspace

theorem exists_trim_cons (hspace : isSpace c = false) :
    ∃ rest', Text.trim (c :: rest) = c :: rest' := by
  obtain ⟨tail, htail, hall⟩ := Text.exists_dropEndWhile isSpace (c :: rest)
  unfold Text.trim Text.trimEnd
  rw [trimStart_cons hspace]
  cases hkept : Text.dropEndWhile isSpace (c :: rest) with
  | nil =>
    rw [hkept, List.nil_append] at htail
    have hc := hall c (htail ▸ List.mem_cons_self)
    simp [hspace] at hc
  | cons d kept =>
    rw [hkept, List.cons_append] at htail
    obtain ⟨rfl, -⟩ := List.cons.inj htail
    exact ⟨kept, rfl⟩

/-- Every notation begins with a year, and every year with a digit or a sign. -/
theorem parse?_eq_none {raw : String} (hraw : raw.toList = c :: rest) (hdigit : c.isDigit = false)
    (hspace : isSpace c = false) (hplus : c ≠ '+') (hminus : c ≠ '-') : parse? raw = none := by
  obtain ⟨rest', htrim⟩ := @exists_trim_cons c rest hspace
  have hyear : signedYear (c :: rest') = none := by
    unfold signedYear
    rw [trimStart_cons hspace]
    split
    · next hcs => exact absurd (List.cons.inj hcs).1 hplus
    · next hcs => exact absurd (List.cons.inj hcs).1 hminus
    · rw [number_eq_none (by decide) hdigit]
      rfl
  have hdate : looseDate (c :: rest') = none := by
    unfold looseDate
    rw [hyear]
    rfl
  have htimestamp : timestamp? (c :: rest') = none := by
    unfold timestamp?
    rw [number_eq_none (by decide) hdigit]
    rfl
  have htime (separator : Separator) : dateTime? separator (c :: rest') = none := by
    unfold dateTime?
    rw [hdate]
    rfl
  have honly : dateOnly? (c :: rest') = none := by
    unfold dateOnly?
    rw [hdate]
    rfl
  unfold parse?
  simp only [hraw, htrim, htimestamp, htime, honly]
  rfl

end Head

/-- A day in words denotes no instant. -/
theorem parse?_text {d : Date} (hd : d.IsCalendarDay) : parse? d.text = none := by
  have hmonth := Date.monthNames_getD hd.one_le_month hd.month_le
  obtain ⟨c, rest, hname, hdigit, hspace, hplus, hminus⟩ :=
    Date.exists_monthName hd.one_le_month hd.month_le
  have htext : d.text.toList = c :: (rest ++ ' ' :: (Nat.repr d.day).toList ++ ',' :: ' ' ::
      (Date.yearText d.year).toList) := by
    unfold Date.text
    rw [hmonth]
    simp [hname]
  exact parse?_eq_none htext hdigit hspace hplus hminus

end Instant

/-! ## What is shown -/

/-- A text that denotes an instant is shown as the one day that contains it, in words if the year
has four digits; any other text is shown as it is, and so is what is shown. -/
theorem formatDate_isWording (raw : String) :
    (∀ i, Instant.parse? raw = some i → ∃ d : Date, (∀ d' : Date, d'.Contains i ↔ d' = d) ∧
      (0 ≤ d.year → d.year ≤ 9999 → formatDate raw = d.wording)) ∧
    (Instant.parse? raw = none → formatDate raw = raw) ∧
    formatDate (formatDate raw) = formatDate raw := by
  refine ⟨fun i hi => ⟨i.date, fun d' => Date.contains_iff, fun hfirst hlast => ?_⟩,
    fun hnone => ?_, ?_⟩
  · unfold formatDate
    rw [hi]
    exact Date.text_eq_wording (Date.isCalendarDay_date i) hfirst hlast
  · unfold formatDate
    rw [hnone]
  · cases hi : Instant.parse? raw with
    | none =>
      have hraw : formatDate raw = raw := by
        unfold formatDate
        rw [hi]
      rw [hraw, hraw]
    | some i =>
      have hraw : formatDate raw = i.date.text := by
        unfold formatDate
        rw [hi]
      have htext := Instant.parse?_text (Date.isCalendarDay_date i)
      rw [hraw]
      unfold formatDate
      rw [htext]

/-- Half an hour into the first of March, one hour ahead, is the leap day in universal time. -/
theorem formatDate_isWording_leapDay :
    Instant.parse? "2024-03-01T00:30:00+01:00" = some ⟨1709249400, 0⟩ ∧
      formatDate "2024-03-01T00:30:00+01:00" = "February 29, 2024" ∧
      Instant.parse? "February 29, 2024" = none ∧
      formatDate "February 29, 2024" = "February 29, 2024" := by
  have hinstant : Instant.parse? "2024-03-01T00:30:00+01:00" = some ⟨1709249400, 0⟩ := by decide
  have hnone : Instant.parse? "February 29, 2024" = none := by decide
  obtain ⟨hshown, -, -⟩ := formatDate_isWording "2024-03-01T00:30:00+01:00"
  obtain ⟨-, hkept, -⟩ := formatDate_isWording "February 29, 2024"
  obtain ⟨d, hday, hwording⟩ := hshown _ hinstant
  have hleap : ({ year := 2024, month := 2, day := 29 } : Date) = d :=
    (hday _).mp (Date.contains_iff.mpr (by decide))
  subst hleap
  exact ⟨hinstant, hwording (by decide) (by decide), hnone, hkept hnone⟩

end Folio
