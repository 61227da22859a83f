import Folio.Proofs.Calendar.Counting
import Mathlib.Algebra.BigOperators.Group.List.Basic

/-!
# The date of a day number

Every number of days is that of one day of the calendar, before the first day of 1970 as after it.
The year is first taken from the mean length of a year; it is right or off by one, and then the
months of the year are passed until the one that holds the day.

Results:

* `yearOf_spec`: the year that contains a day.
* `exists_inMonths`: the month, and the day in it, that a day of a year is.
* `toDays_injective`: different days have different numbers.
* `isDayNumber_iff_eq_ofDays`: the day with a number is its date.
-/

namespace Folio.Date

/-! ## Years -/

theorem yearStart_le {year year' : Int} (h : year ≤ year') : yearStart year ≤ yearStart year' := by
  unfold yearStart
  omega

/-- The mean length of a year leads to the year that contains a day or to a neighbour of it. -/
theorem yearOf_spec (days : Int) :
    yearStart (yearOf days) ≤ days ∧ days < yearStart (yearOf days + 1) := by
  unfold yearOf
  simp only
  generalize hguess : (days + 719528) * 400 / 146097 = guess
  have hle : 146097 * guess ≤ (days + 719528) * 400 := by omega
  have hlt : (days + 719528) * 400 < 146097 * (guess + 1) := by omega
  clear hguess
  split_ifs with hbefore hafter
  · rw [Int.sub_add_cancel]
    refine ⟨?_, hbefore⟩
    unfold yearStart
    omega
  · refine ⟨hafter, ?_⟩
    unfold yearStart
    omega
  · exact ⟨by omega, by omega⟩

/-! ## Months -/

/-- The days of the months before one of them. -/
theorem daysBefore_eq_sum (year : Int) (month : Nat) :
    daysBefore year month = ((monthLengths year).take (month - 1)).sum := by
  unfold daysBefore
  rw [List.sum_eq_foldl]

/-- A day of a span of months is in one of them, and the months before it and the day make up the
days that are passed. -/
theorem exists_inMonths {lengths : List Nat} {day : Nat} (month : Nat) (h : day < lengths.sum) :
    ∃ k rest, k < lengths.length ∧ inMonths month lengths day = (month + k, rest + 1) ∧
      rest < lengths.getD k 0 ∧ day = (lengths.take k).sum + rest := by
  induction lengths generalizing month day with
  | nil => simp at h
  | cons length lengths ih =>
    rw [List.sum_cons] at h
    unfold inMonths
    split_ifs with hday
    · exact ⟨0, day, by simp, rfl, hday, by simp⟩
    · obtain ⟨k, rest, hk, hin, hrest, hsum⟩ := ih (month + 1) (by omega : day - length < _)
      refine ⟨k + 1, rest, ?_, ?_, hrest, ?_⟩
      · rw [List.length_cons]
        omega
      · rw [hin, Nat.add_assoc, Nat.add_comm 1]
      · rw [List.take_succ_cons, List.sum_cons]
        omega

theorem sum_monthLengths (year : Int) :
    (monthLengths year).sum = daysBefore year 12 + daysIn year 12 := by
  rw [daysBefore_eq_sum, monthLengths_eq]
  simp [daysIn]
  omega

/-- A later month begins when an earlier one is over. -/
theorem daysBefore_add_le {year : Int} {month month' : Nat} (hone : 1 ≤ month)
    (hlt : month < month') (hmonth : month' ≤ 12) :
    daysBefore year month + daysIn year month ≤ daysBefore year month' := by
  induction month', hlt using Nat.le_induction with
  | base => rw [daysBefore_succ hone (by omega)]
  | succ last hlast ih =>
    rw [daysBefore_succ (by omega) (by omega)]
    exact (ih (by omega)).trans (Nat.le_add_right _ _)

/-! ## Days -/

section Day

variable {d d' : Date}

theorem yearStart_le_toDays (hd : d.IsCalendarDay) : yearStart d.year ≤ d.toDays := by
  have hday := hd.one_le_day
  unfold toDays
  omega

theorem toDays_lt_yearStart (hd : d.IsCalendarDay) : d.toDays < yearStart (d.year + 1) := by
  have hday := hd.day_le
  have hmonths : daysBefore d.year d.month + daysIn d.year d.month ≤
      daysBefore d.year 12 + daysIn d.year 12 := by
    rcases Nat.lt_or_eq_of_le hd.month_le with hlt | heq
    · exact (daysBefore_add_le hd.one_le_month hlt le_rfl).trans (Nat.le_add_right _ _)
    · rw [heq]
  rw [yearStart_succ]
  unfold toDays
  omega

/-- Of two days the one in the later year has the greater number. -/
theorem toDays_lt_of_year (hd : d.IsCalendarDay) (hd' : d'.IsCalendarDay)
    (hyear : d.year < d'.year) : d.toDays < d'.toDays :=
  calc d.toDays
    _ < yearStart (d.year + 1) := toDays_lt_yearStart hd
    _ ≤ yearStart d'.year := yearStart_le hyear
    _ ≤ d'.toDays := yearStart_le_toDays hd'

/-- Of two days of a year the one in the later month has the greater number. -/
theorem toDays_lt_of_month (hd : d.IsCalendarDay) (hd' : d'.IsCalendarDay)
    (hyear : d.year = d'.year) (hmonth : d.month < d'.month) : d.toDays < d'.toDays := by
  have hday := hd.day_le
  have hday' := hd'.one_le_day
  have hmonths := @daysBefore_add_le d.year d.month d'.month hd.one_le_month hmonth hd'.month_le
  unfold toDays
  rw [← hyear]
  omega

/-- Different days have different numbers. -/
theorem toDays_injective (hd : d.IsCalendarDay) (hd' : d'.IsCalendarDay)
    (h : d.toDays = d'.toDays) : d = d' := by
  have hyear : d.year = d'.year := by
    by_contra hne
    rcases lt_or_gt_of_ne hne with hlt | hlt
    · exact absurd h (toDays_lt_of_year hd hd' hlt).ne
    · exact absurd h (toDays_lt_of_year hd' hd hlt).ne'
  have hmonth : d.month = d'.month := by
    by_contra hne
    rcases Nat.lt_or_gt_of_ne hne with hlt | hlt
    · exact absurd h (toDays_lt_of_month hd hd' hyear hlt).ne
    · exact absurd h (toDays_lt_of_month hd' hd hyear.symm hlt).ne'
  obtain ⟨year, month, day⟩ := d
  obtain ⟨year', month', day'⟩ := d'
  obtain rfl : year = year' := hyear
  obtain rfl : month = month' := hmonth
  have hday : day = day' := by
    simp only [toDays] at h
    omega
  rw [hday]

end Day

/-- The date of a number is a day of the calendar with that number. -/
theorem ofDays_spec (days : Int) : (ofDays days).IsCalendarDay ∧ (ofDays days).toDays = days := by
  obtain ⟨hstart, hend⟩ := yearOf_spec days
  have hspan : (days - yearStart (yearOf days)).toNat < (monthLengths (yearOf days)).sum := by
    rw [yearStart_succ, ← sum_monthLengths] at hend
    omega
  obtain ⟨k, rest, hk, hin, hrest, hsum⟩ := exists_inMonths 1 hspan
  have hdate : ofDays days = ⟨yearOf days, 1 + k, rest + 1⟩ := by
    unfold ofDays
    simp only [hin]
  have hmonth : 1 + k ≤ 12 := by
    have htwelve : (monthLengths (yearOf days)).length = 12 := rfl
    omega
  have hlength := @monthLengths_getD (yearOf days) (1 + k) (by omega) hmonth
  have hbefore := daysBefore_eq_sum (yearOf days) (1 + k)
  rw [Nat.add_sub_cancel_left] at hlength hbefore
  rw [hdate]
  refine ⟨⟨?_, hmonth, ?_, ?_⟩, ?_⟩
  · show 1 ≤ 1 + k
    omega
  · show 1 ≤ rest + 1
    omega
  · show rest + 1 ≤ daysIn (yearOf days) (1 + k)
    omega
  · simp only [toDays]
    omega

/-- Every number is that of one day of the calendar, which is its date. -/
theorem isDayNumber_iff_eq_ofDays {d : Date} {days : Int} :
    d.IsDayNumber days ↔ d = ofDays days := by
  obtain ⟨hday, hnumber⟩ := ofDays_spec days
  rw [isDayNumber_iff]
  constructor
  · rintro ⟨hd, hdays⟩
    exact toDays_injective hd hday (hnumber.trans hdays).symm
  · rintro rfl
    exact ⟨hday, hnumber.symm⟩

end Folio.Date
