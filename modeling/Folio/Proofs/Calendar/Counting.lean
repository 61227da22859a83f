import Folio.Calendar.Date
import Mathlib.Data.Int.Basic
import Mathlib.Tactic.IntervalCases

/-!
# Counting days

The Gregorian calendar in its own terms: the length of a month, the day after a day, and the days
counted from 1 January 1970 in both directions. The closed formula for the number of days counts
just so: it is 0 on that day and grows by one from any day to the next, across the ends of months
and years and over every leap day.

Main definitions:

* `IsLeap`, `daysIn`: leap years and the lengths of months.
* `IsCalendarDay`: the days that there are.
* `next`: the day after a day.
* `IsDayNumber`: the number of a day, found by counting.

Main results:

* `isValid_iff`: the days that are valid.
* `toDays_next`: the formula grows by one from day to day.
* `isDayNumber_iff`: the number that counting finds is that of the formula.
-/

namespace Folio.Date

/-! ## The calendar -/

/-- Every fourth year is a leap year, of the last years of centuries every fourth. -/
def IsLeap (year : Int) : Prop := 4 ∣ year ∧ (100 ∣ year → 400 ∣ year)

instance (year : Int) : Decidable (IsLeap year) :=
  inferInstanceAs (Decidable (4 ∣ year ∧ (100 ∣ year → 400 ∣ year)))

/-- The length of a month. -/
def daysIn (year : Int) (month : Nat) : Nat :=
  if month = 2 then if IsLeap year then 29 else 28
  else if month ∈ [4, 6, 9, 11] then 30
  else 31

/-- A day that there is in the calendar. -/
structure IsCalendarDay (d : Date) : Prop where
  one_le_month : 1 ≤ d.month
  month_le : d.month ≤ 12
  one_le_day : 1 ≤ d.day
  day_le : d.day ≤ daysIn d.year d.month

/-- The day after a day. -/
def next (d : Date) : Date :=
  if d.day < daysIn d.year d.month then { d with day := d.day + 1 }
  else if d.month < 12 then ⟨d.year, d.month + 1, 1⟩
  else ⟨d.year + 1, 1, 1⟩

/-- The first day of 1970. -/
def epoch : Date := ⟨1970, 1, 1⟩

/-- The number of a day, which is found by counting from the first day of 1970, forth and back. -/
inductive IsDayNumber : Date → Int → Prop
  | epoch : IsDayNumber epoch 0
  | next {d : Date} {n : Int} (h : IsDayNumber d n) : IsDayNumber d.next (n + 1)
  | previous {d : Date} {n : Int} (hd : d.IsCalendarDay) (h : IsDayNumber d.next (n + 1)) :
    IsDayNumber d n

/-! ## Months and years -/

theorem isLeapYear_iff {year : Int} : isLeapYear year ↔ IsLeap year := by
  unfold isLeapYear IsLeap
  simp only [Bool.and_eq_true, Bool.or_eq_true, beq_iff_eq, bne_iff_ne]
  omega

theorem one_le_daysIn (year : Int) (month : Nat) : 1 ≤ daysIn year month := by
  unfold daysIn
  split
  · split <;> omega
  · split <;> omega

/-- The lengths of the months of a year, whose second one depends on the year. -/
theorem monthLengths_eq (year : Int) : monthLengths year =
    [31, daysIn year 2, 31, 30, 31, 30, 31, 31, 30, 31, 30, 31] := by
  simp [monthLengths, daysIn, isLeapYear_iff]

theorem monthLengths_getD {year : Int} {month : Nat} (hone : 1 ≤ month) (hmonth : month ≤ 12) :
    (monthLengths year).getD (month - 1) 0 = daysIn year month := by
  rw [monthLengths_eq]
  interval_cases month <;> rfl

/-- A month begins where the one before it ends. -/
theorem daysBefore_succ {year : Int} {month : Nat} (hone : 1 ≤ month) (hmonth : month < 12) :
    daysBefore year (month + 1) = daysBefore year month + daysIn year month := by
  unfold daysBefore
  rw [monthLengths_eq]
  interval_cases month <;> simp [daysIn]

theorem daysBefore_one (year : Int) : daysBefore year 1 = 0 := rfl

/-- A year ends with its last month. -/
theorem daysBefore_twelve (year : Int) :
    daysBefore year 12 + daysIn year 12 = if IsLeap year then 366 else 365 := by
  unfold daysBefore
  rw [monthLengths_eq]
  by_cases hleap : IsLeap year <;> simp [daysIn, hleap]

/-- A year begins where the last month of the one before it ends. -/
theorem yearStart_succ (year : Int) :
    yearStart (year + 1) = yearStart year + (daysBefore year 12 + daysIn year 12 : Nat) := by
  rw [daysBefore_twelve]
  unfold yearStart
  by_cases hleap : IsLeap year
  · rw [if_pos hleap]
    unfold IsLeap at hleap
    omega
  · rw [if_neg hleap]
    unfold IsLeap at hleap
    omega

theorem isValid_iff {d : Date} :
    d.isValid ↔ firstYear ≤ d.year ∧ d.year ≤ lastYear ∧ d.IsCalendarDay := by
  unfold isValid
  simp only [Bool.and_eq_true, decide_eq_true_eq]
  constructor
  · rintro ⟨⟨⟨⟨⟨hfirst, hlast⟩, hone⟩, hmonth⟩, hday⟩, hlength⟩
    rw [monthLengths_getD hone hmonth] at hlength
    exact ⟨hfirst, hlast, hone, hmonth, hday, hlength⟩
  · rintro ⟨hfirst, hlast, hone, hmonth, hday, hlength⟩
    rw [monthLengths_getD hone hmonth]
    exact ⟨⟨⟨⟨⟨hfirst, hlast⟩, hone⟩, hmonth⟩, hday⟩, hlength⟩

/-! ## The day after a day -/

section Next

variable {year : Int} {month day : Nat} {d : Date}

theorem next_of_lt (h : day < daysIn year month) :
    (⟨year, month, day⟩ : Date).next = ⟨year, month, day + 1⟩ := by
  unfold next
  rw [if_pos h]

theorem next_of_last (hmonth : month < 12) :
    (⟨year, month, daysIn year month⟩ : Date).next = ⟨year, month + 1, 1⟩ := by
  unfold next
  rw [if_neg (Nat.lt_irrefl _), if_pos hmonth]

theorem next_of_end (year : Int) :
    (⟨year, 12, daysIn year 12⟩ : Date).next = ⟨year + 1, 1, 1⟩ := by
  unfold next
  rw [if_neg (Nat.lt_irrefl _), if_neg (Nat.lt_irrefl _)]

/-- The three ways from a day to the next: in a month, from month to month and from year to
year. -/
theorem next_cases (hd : d.IsCalendarDay) :
    (d.day < daysIn d.year d.month ∧ d.next = ⟨d.year, d.month, d.day + 1⟩) ∨
    (d.day = daysIn d.year d.month ∧ d.month < 12 ∧ d.next = ⟨d.year, d.month + 1, 1⟩) ∨
    (d.day = daysIn d.year d.month ∧ d.month = 12 ∧ d.next = ⟨d.year + 1, 1, 1⟩) := by
  obtain ⟨year, month, day⟩ := d
  have hday : day ≤ daysIn year month := hd.day_le
  have hmonth : month ≤ 12 := hd.month_le
  rcases Nat.lt_or_eq_of_le hday with hday | rfl
  · exact .inl ⟨hday, next_of_lt hday⟩
  · rcases Nat.lt_or_eq_of_le hmonth with hmonth | rfl
    · exact .inr (.inl ⟨rfl, hmonth, next_of_last hmonth⟩)
    · exact .inr (.inr ⟨rfl, rfl, next_of_end year⟩)

theorem IsCalendarDay.next (hd : d.IsCalendarDay) : d.next.IsCalendarDay := by
  have hmonth := hd.one_le_month
  rcases next_cases hd with ⟨hday, hnext⟩ | ⟨-, hlast, hnext⟩ | ⟨-, -, hnext⟩
  · rw [hnext]
    exact ⟨hmonth, hd.month_le, by simp, hday⟩
  · rw [hnext]
    exact ⟨by simp, hlast, le_rfl, one_le_daysIn _ _⟩
  · rw [hnext]
    exact ⟨le_rfl, by simp, le_rfl, one_le_daysIn _ _⟩

/-- The formula grows by one from any day to the next. -/
theorem toDays_next (hd : d.IsCalendarDay) : d.next.toDays = d.toDays + 1 := by
  rcases next_cases hd with ⟨-, hnext⟩ | ⟨hday, hmonth, hnext⟩ | ⟨hday, hmonth, hnext⟩
  · rw [hnext]
    simp only [toDays]
    omega
  · have hbefore := @daysBefore_succ d.year d.month hd.one_le_month hmonth
    rw [hnext]
    simp only [toDays, hbefore, hday]
    omega
  · have hstart := yearStart_succ d.year
    have hfirst := daysBefore_one (d.year + 1)
    rw [hnext]
    simp only [toDays, hday, hmonth, hstart, hfirst]
    omega

end Next

/-! ## The number of a day -/

theorem toDays_epoch : epoch.toDays = 0 := by decide

theorem isCalendarDay_epoch : epoch.IsCalendarDay := ⟨by decide, by decide, by decide, by decide⟩

/-- Counting finds no other number than the formula gives. -/
theorem IsDayNumber.eq_toDays {d : Date} {n : Int} (h : IsDayNumber d n) :
    d.IsCalendarDay ∧ n = d.toDays := by
  induction h with
  | epoch => exact ⟨isCalendarDay_epoch, toDays_epoch.symm⟩
  | next _ ih =>
    obtain ⟨hd, rfl⟩ := ih
    exact ⟨hd.next, (toDays_next hd).symm⟩
  | previous hd _ ih =>
    refine ⟨hd, ?_⟩
    have hnext := ih.2
    rw [toDays_next hd] at hnext
    omega

/-- Whether counting reaches a day with the number that the formula gives. -/
def IsCounted (d : Date) : Prop := IsDayNumber d d.toDays

theorem isCounted_next_iff {d : Date} (hd : d.IsCalendarDay) : d.next.IsCounted ↔ d.IsCounted := by
  unfold IsCounted
  rw [toDays_next hd]
  exact ⟨.previous hd, .next⟩

section Chain

variable {year : Int} {month : Nat} (hone : 1 ≤ month) (hmonth : month ≤ 12)
include hone hmonth

theorem isCounted_day_iff {day : Nat} (hday : day + 1 ≤ daysIn year month) :
    (⟨year, month, day + 1⟩ : Date).IsCounted ↔ (⟨year, month, 1⟩ : Date).IsCounted := by
  induction day with
  | zero => rfl
  | succ day ih =>
    have hd : (⟨year, month, day + 1⟩ : Date).IsCalendarDay :=
      ⟨hone, hmonth, Nat.le_add_left 1 day, Nat.le_of_succ_le hday⟩
    rw [← ih (Nat.le_of_succ_le hday), ← isCounted_next_iff hd, next_of_lt hday]

theorem isCounted_last_iff :
    (⟨year, month, daysIn year month⟩ : Date).next.IsCounted ↔
      (⟨year, month, 1⟩ : Date).IsCounted := by
  have hpos := one_le_daysIn year month
  have hd : (⟨year, month, daysIn year month⟩ : Date).IsCalendarDay :=
    ⟨hone, hmonth, hpos, le_rfl⟩
  rw [isCounted_next_iff hd]
  obtain ⟨day, hday⟩ : ∃ day, daysIn year month = day + 1 := ⟨_, (Nat.sub_add_cancel hpos).symm⟩
  rw [hday]
  exact isCounted_day_iff hone hmonth (by omega)

end Chain

theorem isCounted_month_iff {year : Int} {month : Nat} (hmonth : month + 1 ≤ 12) :
    (⟨year, month + 1, 1⟩ : Date).IsCounted ↔ (⟨year, 1, 1⟩ : Date).IsCounted := by
  induction month with
  | zero => rfl
  | succ month ih =>
    have hlast := @isCounted_last_iff year (month + 1) (by omega) (by omega)
    rw [next_of_last hmonth] at hlast
    rw [hlast, ih (by omega)]

theorem isCounted_year_iff (year : Int) :
    (⟨year + 1, 1, 1⟩ : Date).IsCounted ↔ (⟨year, 1, 1⟩ : Date).IsCounted := by
  have hend := @isCounted_last_iff year 12 (by omega) le_rfl
  rw [next_of_end] at hend
  rw [hend, @isCounted_month_iff year 11 le_rfl]

/-- Counting reaches the first day of every year, since it reaches that of 1970. -/
theorem isCounted_yearStart (year : Int) : (⟨year, 1, 1⟩ : Date).IsCounted := by
  induction year using Int.inductionOn' (b := 1970) with
  | zero =>
    show IsDayNumber epoch epoch.toDays
    rw [toDays_epoch]
    exact .epoch
  | succ year _ ih => exact (isCounted_year_iff year).mpr ih
  | pred year _ ih =>
    have hyear := isCounted_year_iff (year - 1)
    rw [Int.sub_add_cancel] at hyear
    exact hyear.mp ih

/-- Counting finds the number that the formula gives, for every day of the calendar and for no
other. -/
theorem isDayNumber_iff {d : Date} {n : Int} :
    IsDayNumber d n ↔ d.IsCalendarDay ∧ n = d.toDays := by
  constructor
  · exact IsDayNumber.eq_toDays
  · rintro ⟨⟨hone, hmonth, hday, hlast⟩, rfl⟩
    obtain ⟨year, month, day⟩ := d
    obtain ⟨month, rfl⟩ : ∃ k, month = k + 1 := ⟨_, (Nat.sub_add_cancel hone).symm⟩
    obtain ⟨day, rfl⟩ : ∃ k, day = k + 1 := ⟨_, (Nat.sub_add_cancel hday).symm⟩
    exact (isCounted_day_iff hone hmonth hlast).mpr
      ((isCounted_month_iff hmonth).mpr (isCounted_yearStart year))

end Folio.Date
