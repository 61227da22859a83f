import Folio.Proofs.Calendar.Counting
import Folio.Proofs.Calendar.Digits

/-!
# Notations of one instant

A time of day on a date denotes the same instant however it is written: with a letter or a space
before the time, and with a `Z` or nothing behind it. Where clocks are ahead, the instant is earlier
by as much. A date alone denotes its first second. The notations are tried one after another, and
none of them takes a text of another one for its own, not even where the calendar has no such day:
then nothing is denoted.

Main definitions:

* `Written`, `Zone`: what is written of a time of day, and of the distance from universal time.
* `Written.timed`, `Written.dateText`: the notations.
* `Written.onDay`: the instant that they denote.

Main result:

* `parse?_written`: what every notation of every time of day denotes.
-/

namespace Folio.Instant

open Unicode (isSpace)

/-! ## What is written -/

/-- A date, a time of day and a fraction of a second in digits. There need not be such a day. -/
structure Written where
  year : Nat
  month : Nat
  day : Nat
  hour : Nat
  minute : Nat
  second : Nat
  fraction : List Char
  year_lt : year < 10000
  month_lt : month < 100
  day_lt : day < 100
  hour_lt : hour < 24
  minute_lt : minute < 60
  second_lt : second < 60
  isDigit_of_mem : ∀ c ∈ fraction, c.isDigit

/-- A distance from universal time in hours and minutes. -/
structure Offset where
  isAhead : Bool
  hours : Nat
  minutes : Nat
  hours_lt : hours < 24
  minutes_lt : minutes < 60

/-- What stands behind a time of day. -/
inductive Zone where
  | unwritten
  | universal
  | offset (z : Offset)

namespace Offset

/-- The seconds that clocks are ahead. -/
def seconds (z : Offset) : Int :=
  if z.isAhead then z.hours * 3600 + z.minutes * 60 else -(z.hours * 3600 + z.minutes * 60)

/-- A sign, the hours and the minutes. -/
def text (z : Offset) : List Char :=
  (if z.isAhead then '+' else '-') :: (decimal 2 z.hours ++ ':' :: decimal 2 z.minutes)

end Offset

namespace Zone

/-- The seconds that clocks are ahead. -/
def seconds : Zone → Int
  | unwritten | universal => 0
  | offset z => z.seconds

/-- The text of a zone. -/
def text : Zone → List Char
  | unwritten => []
  | universal => ['Z']
  | offset z => z.text

end Zone

/-- The character between a date and a time. -/
def Separator.char : Separator → Char
  | letter => 'T'
  | space => ' '

namespace Written

/-- The date, whether or not the calendar has it. -/
def date (w : Written) : Date := ⟨w.year, w.month, w.day⟩

/-- The time of day with its nanoseconds. -/
def timeOfDay (w : Written) : TimeOfDay :=
  ⟨w.date, w.hour, w.minute, w.second, nanosOf w.fraction⟩

/-- The start of the day. -/
def midnight (w : Written) : Written :=
  { w with
    hour := 0, minute := 0, second := 0, fraction := []
    hour_lt := by decide, minute_lt := by decide, second_lt := by decide
    isDigit_of_mem := by simp }

/-- The instant, if the day has that number. -/
def onDay (w : Written) (days : Int) (zone : Zone) : Instant :=
  ⟨days * 86400 + w.hour * 3600 + w.minute * 60 + w.second - zone.seconds, nanosOf w.fraction⟩

/-- The date with hyphens. -/
def dateText (w : Written) : List Char :=
  decimal 4 w.year ++ '-' :: decimal 2 w.month ++ '-' :: decimal 2 w.day

/-- The time of day with colons. -/
def clockText (w : Written) : List Char :=
  decimal 2 w.hour ++ ':' :: decimal 2 w.minute ++ ':' :: decimal 2 w.second ++ withPoint w.fraction

/-- The date and the time of day. -/
def timed (w : Written) (separator : Separator) (zone : Zone) : List Char :=
  w.dateText ++ separator.char :: w.clockText ++ zone.text

end Written

/-! ## Reading -/

section Reading

variable (w : Written) (separator : Separator) (zone : Zone)

theorem looseDate_dateText (rest : List Char) :
    looseDate (w.dateText ++ rest) = some (w.date, rest) := by
  have hyear := w.year_lt
  have hmonth := w.month_lt
  have hday := w.day_lt
  unfold looseDate Written.dateText
  simp (disch := omega) only [List.append_assoc, List.cons_append, signedYear_decimal, mark_self,
    shortNumber_decimal, Option.bind_eq_bind, Option.bind_some]
  rfl

/-- A time of day ends before its zone. -/
theorem optionalFraction_zone : optionalFraction (withPoint w.fraction ++ zone.text) =
    some (nanosOf w.fraction, zone.text) := by
  refine optionalFraction_withPoint w.isDigit_of_mem fun c hc => ?_
  cases zone with
  | unwritten => simp [Zone.text] at hc
  | universal =>
    obtain rfl : 'Z' = c := by simpa [Zone.text] using hc
    decide
  | offset z =>
    obtain rfl : (if z.isAhead then '+' else '-') = c := by
      simpa [Zone.text, Offset.text] using hc
    cases z.isAhead <;> decide

theorem zone_text (hzone : zone ≠ .unwritten) :
    Instant.zone zone.text = some (zone.seconds, []) := by
  rcases zone with - | - | ⟨isAhead, hours, minutes, hhours, hminutes⟩
  · exact absurd rfl hzone
  · rfl
  · have hreadHours := number_two (Nat.lt_trans hhours (by decide)) (':' :: decimal 2 minutes)
    have hreadMinutes : number 2 2 (decimal 2 minutes) = some (minutes, []) := by
      simpa using number_two (Nat.lt_trans hminutes (by decide)) []
    unfold Zone.text Offset.text Zone.seconds Offset.seconds Instant.zone
    cases isAhead <;> simp [hreadHours, hreadMinutes, hhours, hminutes]

/-- A timestamp needs a zone. -/
theorem timestamp?_timed : timestamp? (w.timed separator zone) =
    (Instant.zone zone.text).bind fun z =>
      if z.2.isEmpty then w.timeOfDay.toInstant? z.1 else none := by
  have hmark (rest : List Char) : (mark 'T' (separator.char :: rest) <|>
      mark 't' (separator.char :: rest) <|> mark ' ' (separator.char :: rest)) = some rest := by
    cases separator <;> rfl
  have hhour := Nat.lt_trans w.hour_lt (by decide : 24 < 100)
  have hminute := Nat.lt_trans w.minute_lt (by decide : 60 < 100)
  have hsecond := Nat.lt_trans w.second_lt (by decide : 60 < 100)
  unfold Written.timed Written.dateText Written.clockText
  simp only [List.append_assoc, List.cons_append]
  unfold timestamp?
  refine (bind_of_eq_some (number_four w.year_lt _) _).trans ?_
  refine (bind_of_eq_some (mark_self '-' _) _).trans ?_
  refine (bind_of_eq_some (number_two w.month_lt _) _).trans ?_
  refine (bind_of_eq_some (mark_self '-' _) _).trans ?_
  refine (bind_of_eq_some (number_two w.day_lt _) _).trans ?_
  refine (bind_of_eq_some (hmark _) _).trans ?_
  refine (bind_of_eq_some (number_two hhour _) _).trans ?_
  refine (bind_of_eq_some (mark_self ':' _) _).trans ?_
  refine (bind_of_eq_some (number_two hminute _) _).trans ?_
  refine (bind_of_eq_some (mark_self ':' _) _).trans ?_
  refine (bind_of_eq_some (number_two hsecond _) _).trans ?_
  refine (bind_of_eq_some (optionalFraction_zone w zone) _).trans ?_
  rfl

theorem timestamp?_dateText : timestamp? w.dateText = none := by
  have hday : number 2 2 (decimal 2 w.day) = some (w.day, []) := by
    simpa using number_two w.day_lt []
  unfold Written.dateText
  simp only [List.append_assoc, List.cons_append]
  unfold timestamp?
  refine (bind_of_eq_some (number_four w.year_lt _) _).trans ?_
  refine (bind_of_eq_some (mark_self '-' _) _).trans ?_
  refine (bind_of_eq_some (number_two w.month_lt _) _).trans ?_
  refine (bind_of_eq_some (mark_self '-' _) _).trans ?_
  refine (bind_of_eq_some hday _).trans ?_
  rfl

theorem Separator.read_clockText : separator.read (separator.char :: (w.clockText ++ zone.text)) =
    some (w.clockText ++ zone.text) := by
  cases separator with
  | letter => exact mark_self _ _
  | space =>
    have hblank : isSpace ' ' := by decide
    unfold Separator.read Separator.char Text.trimStart Written.clockText
    simp only [List.append_assoc, List.cons_append, List.dropWhile_cons_of_pos hblank]
    exact congrArg some (trimStart_decimal (by decide) _)

/-- A date with a time of day in universal time has no zone. -/
theorem dateTime?_timed : dateTime? separator (w.timed separator zone) =
    if zone.text.isEmpty then w.timeOfDay.toInstant? 0 else none := by
  have hread := Separator.read_clockText w separator zone
  have hhour := w.hour_lt
  have hminute := w.minute_lt
  have hsecond := w.second_lt
  unfold dateTime? Written.timed
  rw [List.append_assoc, List.cons_append, looseDate_dateText]
  simp only [Option.bind_eq_bind, Option.bind_some, hread]
  unfold Written.clockText
  simp (disch := omega) only [List.append_assoc, List.cons_append, mark_self, shortNumber_decimal,
    optionalFraction_zone, Option.bind_some]
  rfl

/-- Neither a letter nor a space is taken for the other. -/
theorem dateTime?_of_ne {other : Separator} (h : separator ≠ other) :
    dateTime? separator (w.timed other zone) = none := by
  unfold dateTime? Written.timed
  rw [List.append_assoc, List.cons_append, looseDate_dateText]
  cases separator <;> cases other
  · exact absurd rfl h
  · rfl
  · rfl
  · exact absurd rfl h

theorem dateTime?_of_zone (other : Separator) (hzone : zone ≠ .unwritten) :
    dateTime? separator (w.timed other zone) = none := by
  have htext : zone.text.isEmpty = false := by
    cases zone with
    | unwritten => exact absurd rfl hzone
    | universal => rfl
    | offset z => rfl
  by_cases hseparator : separator = other
  · rw [hseparator, dateTime?_timed, htext]
    rfl
  · exact dateTime?_of_ne w separator zone hseparator

theorem dateTime?_dateText : dateTime? separator w.dateText = none := by
  have hdate := looseDate_dateText w []
  rw [List.append_nil] at hdate
  unfold dateTime?
  rw [hdate]
  cases separator <;> rfl

theorem dateOnly?_timed : dateOnly? (w.timed separator zone) = none := by
  unfold dateOnly? Written.timed
  rw [List.append_assoc, List.cons_append, looseDate_dateText]
  rfl

theorem dateOnly?_dateText : dateOnly? w.dateText = w.midnight.timeOfDay.toInstant? 0 := by
  have hdate := looseDate_dateText w []
  rw [List.append_nil] at hdate
  have hnanos : nanosOf [] = 0 := by simp [nanosOf, valueOf]
  unfold dateOnly? Written.timeOfDay Written.midnight
  rw [hdate, hnanos]
  rfl

/-! ## White space -/

theorem isSpace_of_mem_zone {c : Char} (h : c ∈ zone.text) : isSpace c = false := by
  cases zone with
  | unwritten => simp [Zone.text] at h
  | universal =>
    obtain rfl : c = 'Z' := by simpa [Zone.text] using h
    decide
  | offset z =>
    unfold Zone.text Offset.text at h
    simp only [List.mem_cons, List.mem_append] at h
    rcases h with rfl | h | rfl | h
    · cases z.isAhead <;> decide
    · exact isSpace_of_mem_decimal h
    · decide
    · exact isSpace_of_mem_decimal h

theorem isSpace_of_mem_fraction {c : Char} (h : c ∈ withPoint w.fraction) : isSpace c = false := by
  unfold withPoint at h
  split_ifs at h with hnil
  · simp at h
  · rcases List.mem_cons.mp h with rfl | h
    · decide
    · exact isSpace_of_isDigit (w.isDigit_of_mem c h)

theorem trim_timed : Text.trim (w.timed separator zone) = w.timed separator zone := by
  have hend : decimal 2 w.second ++ (withPoint w.fraction ++ zone.text) ≠ [] := by
    simp [decimal_ne_nil]
  have hspace : ∀ c ∈ decimal 4 w.year ++
      (decimal 2 w.second ++ (withPoint w.fraction ++ zone.text)), isSpace c = false := by
    intro c hc
    simp only [List.mem_append] at hc
    rcases hc with hc | hc | hc | hc
    · exact isSpace_of_mem_decimal hc
    · exact isSpace_of_mem_decimal hc
    · exact isSpace_of_mem_fraction w hc
    · exact isSpace_of_mem_zone zone hc
  have htrim := Text.trim_of_words ('-' :: decimal 2 w.month ++ '-' :: decimal 2 w.day ++
    separator.char :: decimal 2 w.hour ++ ':' :: decimal 2 w.minute ++ [':'])
    (decimal_ne_nil (by decide)) hend hspace
  simpa [Written.timed, Written.dateText, Written.clockText] using htrim

theorem trim_dateText : Text.trim w.dateText = w.dateText := by
  have hspace : ∀ c ∈ decimal 4 w.year ++ decimal 2 w.day, isSpace c = false := by
    intro c hc
    rcases List.mem_append.mp hc with hc | hc
    · exact isSpace_of_mem_decimal hc
    · exact isSpace_of_mem_decimal hc
  have htrim := Text.trim_of_words ('-' :: decimal 2 w.month ++ ['-'])
    (decimal_ne_nil (by decide)) (decimal_ne_nil (by decide)) hspace
  simpa [Written.dateText] using htrim

/-! ## All notations -/

theorem parse?_of_trim {cs : List Char} (h : Text.trim cs = cs) : parse? (.ofList cs) =
    (timestamp? cs <|> dateTime? .letter cs <|> dateTime? .space cs <|> dateOnly? cs) := by
  unfold parse?
  rw [String.toList_ofList, h]

/-- Only one notation reads a time of day, and it decides what the text denotes. -/
theorem parse?_timed : parse? (.ofList (w.timed separator zone)) =
    w.timeOfDay.toInstant? zone.seconds := by
  rw [parse?_of_trim (trim_timed w separator zone), timestamp?_timed, dateOnly?_timed]
  by_cases hzone : zone = .unwritten
  · -- It is no timestamp, and the separator tells which of the others it is.
    subst hzone
    cases separator with
    | letter =>
      rw [dateTime?_timed, dateTime?_of_ne _ _ _ (by simp)]
      simp [Zone.text, Zone.seconds, Instant.zone]
    | space =>
      rw [dateTime?_timed, dateTime?_of_ne _ _ _ (by simp)]
      simp [Zone.text, Zone.seconds, Instant.zone]
  · rw [zone_text zone hzone, dateTime?_of_zone _ _ _ _ hzone, dateTime?_of_zone _ _ _ _ hzone]
    simp

theorem parse?_dateText : parse? (.ofList w.dateText) = w.midnight.timeOfDay.toInstant? 0 := by
  rw [parse?_of_trim (trim_dateText w), timestamp?_dateText, dateTime?_dateText, dateTime?_dateText,
    dateOnly?_dateText]
  rfl

end Reading

/-! ## What is denoted -/

theorem toInstant?_of_isCalendarDay {w : Written} (hdate : w.date.IsCalendarDay) (zone : Zone) :
    w.timeOfDay.toInstant? zone.seconds = some (w.onDay w.date.toDays zone) := by
  have hvalid : w.date.isValid := by
    refine Date.isValid_iff.mpr ⟨?_, ?_, hdate⟩
    · show Date.firstYear ≤ (w.year : Int)
      unfold Date.firstYear
      omega
    · show (w.year : Int) ≤ Date.lastYear
      have hyear := w.year_lt
      unfold Date.lastYear
      omega
  have hsecond := w.second_lt
  have hle : w.second ≤ 60 := by omega
  have hleap : w.second ≠ 60 := by omega
  unfold TimeOfDay.toInstant? Written.timeOfDay Written.onDay secondsPerDay
  simp [hvalid, w.hour_lt, w.minute_lt, hle, hleap]
  omega

theorem toInstant?_eq_none {t : TimeOfDay} (hdate : ¬t.date.IsCalendarDay) (offset : Int) :
    t.toInstant? offset = none := by
  have hvalid : t.date.isValid = false := by
    rw [Bool.eq_false_iff, ne_eq, Date.isValid_iff]
    rintro ⟨-, -, h⟩
    exact hdate h
  unfold TimeOfDay.toInstant?
  simp [hvalid]

theorem parse?_pad (text : String) {lead trail : String} (hlead : ∀ c ∈ lead.toList, isSpace c)
    (htrail : ∀ c ∈ trail.toList, isSpace c) : parse? (lead ++ text ++ trail) = parse? text := by
  unfold parse?
  rw [String.toList_append, String.toList_append, Text.trim_pad _ hlead htrail]

/-- A time of day on a day of the calendar denotes one instant in every notation: the seconds of the
day before it and those of its clock, less what clocks are ahead. The date alone denotes the first
second of the day. On a day that the calendar does not have, nothing is denoted in any notation.
White space around a text does not count. -/
theorem parse?_written (w : Written) :
    (w.date.IsCalendarDay → ∃ days, w.date.IsDayNumber days ∧
      (∀ separator zone, parse? (.ofList (w.timed separator zone)) = some (w.onDay days zone)) ∧
      parse? (.ofList w.dateText) = some (w.midnight.onDay days .unwritten)) ∧
    (¬w.date.IsCalendarDay →
      (∀ separator zone, parse? (.ofList (w.timed separator zone)) = none) ∧
      parse? (.ofList w.dateText) = none) ∧
    parse? (.ofList w.dateText) = parse? (.ofList (w.midnight.timed .letter .unwritten)) ∧
    ∀ text lead trail : String, (∀ c ∈ lead.toList, isSpace c) → (∀ c ∈ trail.toList, isSpace c) →
      parse? (lead ++ text ++ trail) = parse? text := by
  refine ⟨fun hdate => ?_, fun hdate => ⟨fun separator zone => ?_, ?_⟩, ?_, ?_⟩
  · refine ⟨w.date.toDays, Date.isDayNumber_iff.mpr ⟨hdate, rfl⟩, fun separator zone => ?_, ?_⟩
    · rw [parse?_timed]
      exact toInstant?_of_isCalendarDay hdate zone
    · rw [parse?_dateText]
      exact toInstant?_of_isCalendarDay (w := w.midnight) hdate .unwritten
  · rw [parse?_timed]
    exact toInstant?_eq_none hdate _
  · rw [parse?_dateText]
    exact toInstant?_eq_none (t := w.midnight.timeOfDay) hdate 0
  · rw [parse?_dateText, parse?_timed]
    rfl
  · intro text lead trail hlead htrail
    exact parse?_pad text hlead htrail

/-- The last second of a leap day, in more digits than are kept. -/
def leapDay : Written where
  year := 2024
  month := 2
  day := 29
  hour := 23
  minute := 59
  second := 59
  fraction := List.replicate 10 '9'
  year_lt := by decide
  month_lt := by decide
  day_lt := by decide
  hour_lt := by decide
  minute_lt := by decide
  second_lt := by decide
  isDigit_of_mem := by
    intro c hc
    rw [List.eq_of_mem_replicate hc]
    rfl

/-- The same day of a year that does not have it. -/
def noDay : Written := { leapDay with year := 2023, year_lt := by decide }

/-- Clocks that are five hours and a half behind. -/
def behind : Offset := ⟨false, 5, 30, by decide, by decide⟩

theorem parse?_written_leapDay :
    leapDay.date.IsCalendarDay ∧ ¬noDay.date.IsCalendarDay ∧
      parse? "2024-02-29T23:59:59.9999999999-05:30" = some ⟨1709270999, 999999999⟩ ∧
      parse? "2023-02-29T23:59:59.9999999999-05:30" = none := by
  have hday : leapDay.date.IsCalendarDay := ⟨by decide, by decide, by decide, by decide⟩
  have hnoDay : ¬noDay.date.IsCalendarDay := fun h => absurd h.day_le (by decide)
  obtain ⟨days, hdays, hsome, -⟩ := (parse?_written leapDay).1 hday
  obtain ⟨hnone, -⟩ := (parse?_written noDay).2.1 hnoDay
  have hnumber : days = 19782 := (Date.isDayNumber_iff.mp hdays).2.trans (by decide)
  have hinstant : leapDay.onDay days (.offset behind) = ⟨1709270999, 999999999⟩ := by
    rw [hnumber]
    decide
  have hleap : leapDay.timed .letter (.offset behind) =
      "2024-02-29T23:59:59.9999999999-05:30".toList := by decide
  have hother : noDay.timed .letter (.offset behind) =
      "2023-02-29T23:59:59.9999999999-05:30".toList := by decide
  refine ⟨hday, hnoDay, ?_, ?_⟩
  · rw [← hinstant, ← hsome .letter (.offset behind), hleap, String.ofList_toList]
  · rw [← hnone .letter (.offset behind), hother, String.ofList_toList]

end Folio.Instant
