import GapAudit.Text.Blank
import GapAudit.Text.Letter
import GapAudit.Text.Scan

/-!
Moments in universal time: the calendar, the written forms, and the reading of moments that were
written with any offset.
-/

namespace GapAudit

/-- A day of the proleptic Gregorian calendar. -/
structure Date where
  year : Int
  month : Nat
  day : Nat
  deriving DecidableEq, Repr

namespace Date

def isLeapYear (year : Int) : Bool :=
  year % 4 == 0 && (year % 100 != 0 || year % 400 == 0)

def monthLength (year : Int) (month : Nat) : Nat :=
  if month == 2 then (if isLeapYear year then 29 else 28)
  else if month == 4 || month == 6 || month == 9 || month == 11 then 30
  else 31

/-- The years that a day may lie in. -/
def yearInRange (year : Int) : Bool :=
  -262143 ≤ year && year ≤ 262142

def isValid (d : Date) : Bool :=
  yearInRange d.year && 1 ≤ d.month && d.month ≤ 12 && 1 ≤ d.day &&
    d.day ≤ monthLength d.year d.month

/-- The number of days from the first of January 1970. Years are counted from March, so that the
leap day is the last of its year. -/
def toDays (d : Date) : Int :=
  let year := if d.month ≤ 2 then d.year - 1 else d.year
  let month : Int := if d.month ≤ 2 then d.month + 9 else d.month - 3
  let yearOfEra := year % 400
  -- from March on, any five months in a row have 153 days
  let dayOfYear := (153 * month + 2) / 5 + d.day - 1
  let dayOfEra := yearOfEra * 365 + yearOfEra / 4 - yearOfEra / 100 + dayOfYear
  year / 400 * 146097 + dayOfEra - 719468

/-- The day with the given number. -/
def ofDays (days : Int) : Date :=
  let shifted := days + 719468
  let dayOfEra := shifted % 146097
  -- without the leap days before this day, all years of the era have 365 days
  let yearOfEra := (dayOfEra - dayOfEra / 1460 + dayOfEra / 36524 - dayOfEra / 146096) / 365
  let dayOfYear := dayOfEra - (365 * yearOfEra + yearOfEra / 4 - yearOfEra / 100)
  let month := (5 * dayOfYear + 2) / 153
  let day := dayOfYear - (153 * month + 2) / 5 + 1
  let year := yearOfEra + shifted / 146097 * 400
  if month < 10 then ⟨year, (month + 3).toNat, day.toNat⟩
  else ⟨year + 1, (month - 9).toNat, day.toNat⟩

end Date

/-- A moment: seconds from the start of 1970 and nanoseconds. From a whole second of nanoseconds on
they lie within a leap second that follows the counted one. -/
structure Timestamp where
  seconds : Int
  nanos : Nat
  deriving DecidableEq, Repr

namespace Timestamp

/-- A number with at least the given count of digits. -/
def padded (width n : Nat) : List Char :=
  (Nat.toDigits 10 n).leftpad width '0'

/-- A year: four digits, and a sign outside the years 0 to 9999. -/
def yearText (year : Int) : List Char :=
  if 0 ≤ year && year ≤ 9999 then padded 4 year.toNat
  else (if year < 0 then '-' else '+') :: padded 4 year.natAbs

/-- The parts of a moment as a clock shows them. -/
structure Clock where
  date : Date
  hour : Nat
  minute : Nat
  second : Nat
  nanos : Nat

def nanosPerSecond : Nat := 1000000000

/-- The moment as a clock shows it; a leap second has number 60. -/
def clock (t : Timestamp) : Clock where
  date := Date.ofDays (t.seconds / 86400)
  hour := (t.seconds % 86400 / 3600).toNat
  minute := (t.seconds % 3600 / 60).toNat
  second := (t.seconds % 60).toNat + t.nanos / nanosPerSecond
  nanos := t.nanos % nanosPerSecond

def Clock.dateText (c : Clock) (separator : List Char) : List Char :=
  yearText c.date.year ++ separator ++ padded 2 c.date.month ++ separator ++ padded 2 c.date.day

def Clock.timeText (c : Clock) (separator : List Char) : List Char :=
  padded 2 c.hour ++ separator ++ padded 2 c.minute ++ separator ++ padded 2 c.second

/-- The fraction of a second with as few groups of three digits as it needs. -/
def Clock.fractionText (c : Clock) : List Char :=
  if c.nanos == 0 then []
  else if c.nanos % 1000000 == 0 then '.' :: padded 3 (c.nanos / 1000000)
  else if c.nanos % 1000 == 0 then '.' :: padded 6 (c.nanos / 1000)
  else '.' :: padded 9 c.nanos

/-- The form in data, such as `2026-03-04T05:06:07Z`. -/
def dataText (t : Timestamp) : String :=
  let c := t.clock
  String.ofList (c.dateText ['-'] ++ 'T' :: c.timeText [':'] ++ c.fractionText ++ ['Z'])

/-- The form in documents, such as `2026-03-04 05:06:07 UTC`. -/
def documentText (t : Timestamp) : String :=
  let c := t.clock
  String.ofList (c.dateText ['-'] ++ ' ' :: c.timeText [':'] ++ [' ', 'U', 'T', 'C'])

/-- The form in file names, such as `20260304-050607`. -/
def stampText (t : Timestamp) : String :=
  let c := t.clock
  String.ofList (c.dateText [] ++ '-' :: c.timeText [])

namespace Reading

open Text

def number (ds : List Char) : Nat :=
  ds.foldl (fun n c => n * 10 + (c.toNat - '0'.toNat)) 0

/-- A number of one digit up to a limit of digits, after blanks. -/
def shortNumber? (limit : Nat) (s : List Char) : Option (Nat × List Char) :=
  let s := trimStart s
  let ds := (s.take limit).takeWhile isAsciiDigit
  if ds.isEmpty then none else some (number ds, s.drop ds.length)

/-- A year: up to four digits, or any number of them after a sign. -/
def year? (s : List Char) : Option (Int × List Char) :=
  let signed (s : List Char) : Option (Nat × List Char) :=
    let (ds, rest) := spanWhile isAsciiDigit s
    if ds.isEmpty then none else some (number ds, rest)
  match trimStart s with
  | '-' :: s => (signed s).map fun (n, rest) => (-n, rest)
  | '+' :: s => (signed s).map fun (n, rest) => (n, rest)
  | s => (shortNumber? 4 s).map fun (n, rest) => (n, rest)

def separator? (separator : Char) (s : List Char) : Option (List Char) :=
  after? [separator] (trimStart s)

/-- A fraction of a second in nanoseconds, zero where there is none; digits beyond the ninth are
passed over. -/
def fraction? (s : List Char) : Option (Nat × List Char) :=
  match s with
  | '.' :: s =>
    let (ds, rest) := spanWhile isAsciiDigit s
    if ds.isEmpty then none
    else some (number ((ds ++ List.replicate 9 '0').take 9), rest)
  | s => some (0, s)

def twoDigits? : List Char → Option (Nat × List Char)
  | a :: b :: s => if isAsciiDigit a && isAsciiDigit b then some (number [a, b], s) else none
  | _ => none

/-- An offset from universal time in seconds: `Z`, `UTC`, or a sign, hours and minutes. -/
def offset? (s : List Char) : Option (Int × List Char) :=
  let numeric (sign : Int) (s : List Char) : Option (Int × List Char) := do
    let (hours, s) ← twoDigits? s
    let (minutes, s) ← twoDigits? (s.dropWhile fun c => c == ':' || isBlank c)
    if minutes < 60 && hours < 24 then some (sign * (hours * 3600 + minutes * 60 : Nat), s)
    else none
  match s with
  | 'Z' :: s | 'z' :: s => some (0, s)
  | '+' :: s => numeric 1 s
  | '-' :: s | '−' :: s => numeric (-1) s
  | a :: b :: c :: s =>
    if [a, b, c].map Char.toUpper == ['U', 'T', 'C'] then some (0, s) else none
  | _ => none

end Reading

open Reading Text in
/-- The moment that a text denotes: date, `T` or a blank, time of day, and offset. -/
def parse? (text : String) : Option Timestamp := do
  let (year, s) ← year? text.toList
  let s ← separator? '-' s
  let (month, s) ← shortNumber? 2 s
  let s ← separator? '-' s
  let (day, s) ← shortNumber? 2 s
  let s ← match s with
    | c :: s => if c == 'T' || c == 't' || c == ' ' then some s else none
    | [] => none
  let (hour, s) ← shortNumber? 2 s
  let s ← separator? ':' s
  let (minute, s) ← shortNumber? 2 s
  let s ← separator? ':' s
  let (second, s) ← shortNumber? 2 s
  let (nanos, s) ← fraction? s
  let (offset, s) ← offset? (trimStart s)
  let date : Date := ⟨year, month, day⟩
  if allBlank s && date.isValid && hour < 24 && minute < 60 && second ≤ 60 then
    let leap := second / 60
    some {
      seconds := date.toDays * 86400 + (hour * 3600 + minute * 60 + (second - leap) : Nat) - offset
      nanos := nanos + leap * nanosPerSecond }
  else none

end Timestamp

end GapAudit
