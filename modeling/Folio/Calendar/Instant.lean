import Folio.Calendar.Date
import Folio.Text.Split
import Folio.Text.Words

/-!
# Instants

Instants are read from several notations and written in words or as a timestamp. All are in
universal time.

Main definitions:

* `Instant`: a second, counted from the start of 1970, with a fraction.
* `Instant.parse?`: the instant that a text denotes: a timestamp with an offset, a date with a
  time of day, or a date alone.
* `formatDate`: the day of a text in words, or the text itself if it denotes no instant.
-/

namespace Folio

/-- A second, counted from the start of 1970 in universal time, with the nanoseconds that have
passed in it. A leap second is a second whole second within the one before it. -/
structure Instant where
  seconds : Int
  nanos : Nat
  deriving DecidableEq, Repr, Inhabited

/-- The length of a day in seconds. -/
def secondsPerDay : Int := 86400

/-- A time of day on a date, as written. -/
structure TimeOfDay where
  date : Date
  hour : Nat
  minute : Nat
  second : Nat
  nanos : Nat
  deriving DecidableEq, Repr, Inhabited

/-- The instant of a time of day where clocks are `offset` seconds ahead. Second 60 is a leap
second, at the end of any minute. -/
def TimeOfDay.toInstant? (t : TimeOfDay) (offset : Int) : Option Instant :=
  if t.date.isValid && t.hour < 24 && t.minute < 60 && t.second ≤ 60 then
    let start := t.date.toDays * secondsPerDay + t.hour * 3600 + t.minute * 60 - offset
    if t.second = 60 then some ⟨start + 59, t.nanos + 1000000000⟩
    else some ⟨start + t.second, t.nanos⟩
  else none

namespace Instant

/-- Instants by time. -/
def compare : Instant → Instant → Ordering :=
  compareLex (compareOn Instant.seconds) (compareOn Instant.nanos)

/-- The day that contains an instant. -/
def date (i : Instant) : Date := .ofDays (i.seconds / secondsPerDay)

/-! ## Steps of reading

Each step returns what it read and the rest of the text. -/

/-- The value of decimal digits. -/
def valueOf (digits : List Char) : Nat :=
  digits.foldl (fun n c => 10 * n + (c.toNat - '0'.toNat)) 0

/-- Reads digits, as many as there are up to `most` but at least `least`. -/
def digits (least most : Nat) (cs : List Char) : Option (List Char × List Char) :=
  let found := (cs.take most).takeWhile Char.isDigit
  if least ≤ found.length then some (found, cs.drop found.length) else none

/-- Reads a number of `least` to `most` digits. -/
def number (least most : Nat) (cs : List Char) : Option (Nat × List Char) :=
  (digits least most cs).map fun (found, rest) => (valueOf found, rest)

/-- Reads one given character. -/
def mark (c : Char) (cs : List Char) : Option (List Char) := Text.dropLead [c] cs

/-- Reads a fraction of a second after its point, in nanoseconds. Digits beyond the ninth are
passed over. -/
def fraction (cs : List Char) : Option (Nat × List Char) := do
  let (found, rest) ← digits 1 cs.length cs
  let nine := found.take 9
  some (valueOf nine * Nat.pow 10 (9 - nine.length), rest)

/-- Reads a fraction with its point, if there is a point. -/
def optionalFraction (cs : List Char) : Option (Nat × List Char) :=
  match mark '.' cs with
  | some rest => fraction rest
  | none => some (0, cs)

/-- Reads the distance from universal time in seconds: `Z`, or a sign, hours and minutes. -/
def zone (cs : List Char) : Option (Int × List Char) :=
  match cs with
  | [] => none
  | c :: rest =>
    if c = 'Z' || c = 'z' then some (0, rest)
    else if c = '+' || c = '-' || c = '\u2212' then do
      let (hours, rest) ← number 2 2 rest
      let (minutes, rest) ← number 2 2 (← mark ':' rest)
      if hours < 24 && minutes < 60 then
        let distance : Int := hours * 3600 + minutes * 60
        some (if c = '+' then distance else -distance, rest)
      else none
    else none

/-! ## Notations -/

/-- A timestamp with the distance from universal time. Every number has its full width. -/
def timestamp? (cs : List Char) : Option Instant := do
  let (year, cs) ← number 4 4 cs
  let (month, cs) ← number 2 2 (← mark '-' cs)
  let (day, cs) ← number 2 2 (← mark '-' cs)
  let cs ← mark 'T' cs <|> mark 't' cs <|> mark ' ' cs
  let (hour, cs) ← number 2 2 cs
  let (minute, cs) ← number 2 2 (← mark ':' cs)
  let (second, cs) ← number 2 2 (← mark ':' cs)
  let (nanos, cs) ← optionalFraction cs
  let (offset, cs) ← zone cs
  if cs.isEmpty then
    TimeOfDay.toInstant? { date := ⟨year, month, day⟩, hour, minute, second, nanos } offset
  else none

/-- Reads a number of one or two digits after white space. -/
def shortNumber (cs : List Char) : Option (Nat × List Char) := number 1 2 (Text.trimStart cs)

/-- Reads a year after white space: any number of digits after a sign, else up to four. -/
def signedYear (cs : List Char) : Option (Int × List Char) :=
  match Text.trimStart cs with
  | '+' :: rest => (number 1 rest.length rest).map fun (n, rest) => ((n : Int), rest)
  | '-' :: rest => (number 1 rest.length rest).map fun (n, rest) => (-(n : Int), rest)
  | cs => (number 1 4 cs).map fun (n, rest) => ((n : Int), rest)

/-- Reads a date whose numbers may be short. -/
def looseDate (cs : List Char) : Option (Date × List Char) := do
  let (year, cs) ← signedYear cs
  let (month, cs) ← shortNumber (← mark '-' cs)
  let (day, cs) ← shortNumber (← mark '-' cs)
  some (⟨year, month, day⟩, cs)

/-- What may stand between a date and a time: the letter `T`, or any white space, even none. -/
inductive Separator where
  | letter
  | space

/-- Reads what stands between a date and a time. -/
def Separator.read : Separator → List Char → Option (List Char)
  | letter, cs => mark 'T' cs
  | space, cs => some (Text.trimStart cs)

/-- A date with a time of day in universal time, whose numbers may be short. -/
def dateTime? (separator : Separator) (cs : List Char) : Option Instant := do
  let (date, cs) ← looseDate cs
  let (hour, cs) ← shortNumber (← separator.read cs)
  let (minute, cs) ← shortNumber (← mark ':' cs)
  let (second, cs) ← shortNumber (← mark ':' cs)
  let (nanos, cs) ← optionalFraction cs
  if cs.isEmpty then TimeOfDay.toInstant? { date, hour, minute, second, nanos } 0 else none

/-- A date alone, which denotes the start of the day. -/
def dateOnly? (cs : List Char) : Option Instant := do
  let (date, cs) ← looseDate cs
  if cs.isEmpty then
    TimeOfDay.toInstant? { date, hour := 0, minute := 0, second := 0, nanos := 0 } 0
  else none

/-- The instant that a text denotes, whatever white space is around it. -/
def parse? (raw : String) : Option Instant :=
  let cs := Text.trim raw.toList
  timestamp? cs <|> dateTime? .letter cs <|> dateTime? .space cs <|> dateOnly? cs

/-! ## Writing -/

/-- A timestamp in universal time, to the millisecond. -/
def text (i : Instant) : String :=
  let date := i.date
  let second := (i.seconds % secondsPerDay).toNat
  Date.yearText date.year ++ "-" ++ Date.padded 2 date.month ++ "-" ++ Date.padded 2 date.day
    ++ "T" ++ Date.padded 2 (second / 3600) ++ ":" ++ Date.padded 2 (second / 60 % 60)
    ++ ":" ++ Date.padded 2 (second % 60) ++ "." ++ Date.padded 3 (i.nanos / 1000000) ++ "Z"

end Instant

/-- The day of a text in words, or the text itself if it denotes no instant. -/
def formatDate (raw : String) : String :=
  match Instant.parse? raw with
  | some instant => instant.date.text
  | none => raw

end Folio
