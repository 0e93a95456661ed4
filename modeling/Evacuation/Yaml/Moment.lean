import Evacuation.Text.Digit
import Evacuation.Time.Calendar
/-!
# Dates and times in documents

A scalar may be a date or a point in time. A point in time has a time of day to the microsecond and
may have an offset from universal time. Years go from 1 to 9999, and an offset is less than a day.
-/
namespace Evacuation.Yaml

/-- A time of day. -/
structure DayTime where
  hour : Nat
  minute : Nat
  second : Nat
  micro : Nat
  /-- The seconds by which it is ahead of universal time, if that is known. -/
  offset : Option Int
  deriving DecidableEq, Repr

/-- A date, or a point in time. -/
structure Moment where
  year : Nat
  month : Nat
  day : Nat
  time : Option DayTime := none
  deriving DecidableEq, Repr

namespace Moment

/-- A leap year of the Gregorian calendar. -/
def isLeapYear (year : Nat) : Bool := year % 4 == 0 && (year % 100 != 0 || year % 400 == 0)

/-- The number of days of a month. -/
def daysIn (year month : Nat) : Nat :=
  if month = 2 then if isLeapYear year then 29 else 28
  else if [4, 6, 9, 11].contains month then 30 else 31

/-- The seconds of a day. -/
def daySeconds : Int := 86400

/-- A span of seconds in days and the seconds behind them. -/
def spanText (seconds : Int) : String :=
  let days := seconds.fdiv daySeconds
  let rest := seconds.fmod daySeconds
  let parts := (if days = 0 then [] else [s!"days={days}"]) ++
    if rest = 0 then [] else [s!"seconds={rest}"]
  "datetime.timedelta(" ++ (if parts.isEmpty then "0" else ", ".intercalate parts) ++ ")"

/-- What is wrong with a date, if there is no such day. -/
def dateFault? (year month day : Nat) : Option String :=
  if year = 0 then some s!"year {year} is out of range"
  else if month = 0 || 12 < month then some "month must be in 1..12"
  else if day = 0 || daysIn year month < day then some "day is out of range for month"
  else none

/-- What is wrong with an offset that is not less than a day. -/
def offsetFault? (offset : Int) : Option String :=
  if -daySeconds < offset && offset < daySeconds then none
  else some ("offset must be a timedelta strictly between -timedelta(hours=24) and " ++
    s!"timedelta(hours=24), not {spanText offset}.")

/-- What is wrong with a time of day that there is not. -/
def timeFault? (time : DayTime) : Option String :=
  if 23 < time.hour then some "hour must be in 0..23"
  else if 59 < time.minute then some "minute must be in 0..59"
  else if 59 < time.second then some "second must be in 0..59"
  else none

/-- What is wrong with a moment that there is not. -/
def fault? (moment : Moment) : Option String :=
  let offset := moment.time.bind (·.offset)
  (offset.bind offsetFault?).or ((dateFault? moment.year moment.month moment.day).or
    (moment.time.bind timeFault?))

/-! ## Reading -/

/-- A number of one or more digits, up to a number of them, and the rest. -/
def number? (least most : Nat) (text : List Char) : Option (Nat × List Char) :=
  let digits := (text.take most).takeWhile Char.isDigit
  if digits.length < least then none
  else some (Text.decimalNumber digits, text.drop digits.length)

/-- The rest of a text behind a character of a kind. -/
def after? (isMember : Char → Bool) : List Char → Option (List Char)
  | c :: rest => if isMember c then some rest else none
  | [] => none

/-- A number, and the rest behind a character that follows it. -/
def numberBefore? (c : Char) (least most : Nat) (text : List Char) : Option (Nat × List Char) := do
  let (value, rest) ← number? least most text
  return (value, ← after? (· == c) rest)

/-- A space or a tab. -/
def isBlank (c : Char) : Bool := c == ' ' || c == '\t'

/-- The microseconds of the digits behind a second. -/
def micros (digits : List Char) : Nat :=
  Text.decimalNumber ((digits ++ List.replicate 6 '0').take 6)

/-- The offset that fills the rest of a text, with blanks before it. -/
def offset? (text : List Char) : Option (Option Int) :=
  match text.dropWhile isBlank with
  | [] => if text.isEmpty then some none else none
  | ['Z'] => some (some 0)
  | sign :: rest => do
    if sign != '+' && sign != '-' then none
    let (hours, rest) ← number? 1 2 rest
    let (minutes, rest) ← if rest.isEmpty then some (0, rest) else
      (after? (· == ':') rest).bind (number? 2 2)
    if !rest.isEmpty then none
    let size : Int := 3600 * hours + 60 * minutes
    return some (if sign == '-' then -size else size)

/-- The time of day that fills the rest of a text. -/
def time? (text : List Char) : Option DayTime := do
  let (hour, rest) ← numberBefore? ':' 1 2 text
  let (minute, rest) ← numberBefore? ':' 2 2 rest
  let (second, rest) ← number? 2 2 rest
  let (fraction, rest) := match rest with
    | '.' :: rest => (rest.takeWhile Char.isDigit, rest.dropWhile Char.isDigit)
    | rest => ([], rest)
  let offset ← offset? rest
  return ⟨hour, minute, second, micros fraction, offset⟩

/-- The rest of a text behind what separates a date from a time of day. -/
def afterDate? : List Char → Option (List Char)
  | 'T' :: rest | 't' :: rest => some rest
  | c :: rest => if isBlank c then some (rest.dropWhile isBlank) else none
  | [] => none

/-- The moment written by a text, whether or not there is one. -/
def read? (text : List Char) : Option Moment := do
  let (year, rest) ← numberBefore? '-' 4 4 text
  let (month, rest) ← numberBefore? '-' 1 2 rest
  let (day, rest) ← number? 1 2 rest
  if rest.isEmpty then return { year, month, day }
  else return { year, month, day, time := some (← time? (← afterDate? rest)) }

/-- A text that is taken for a moment: a date has all its digits unless a time follows. -/
def isWritten (text : List Char) : Bool :=
  match read? text with
  | some moment => moment.time.isSome || text.length = 10
  | none => false

/-! ## Showing -/

/-- A date as it is shown. -/
def dateText (moment : Moment) : String :=
  padded 4 moment.year ++ "-" ++ padded 2 moment.month ++ "-" ++ padded 2 moment.day

/-- A time of day as it is shown. -/
def timeText (time : DayTime) : String :=
  let offset := match time.offset with
    | none => ""
    | some offset =>
      let minutes := offset.natAbs / 60
      (if offset < 0 then "-" else "+") ++ padded 2 (minutes / 60) ++ ":" ++ padded 2 (minutes % 60)
  padded 2 time.hour ++ ":" ++ padded 2 time.minute ++ ":" ++ padded 2 time.second ++
    (if time.micro = 0 then "" else "." ++ padded 6 time.micro) ++ offset

/-- A moment as it is shown. -/
def text (moment : Moment) : String :=
  match moment.time with
  | none => moment.dateText
  | some time => moment.dateText ++ " " ++ timeText time

/-- An offset inside a quoted moment. -/
def quotedOffset (offset : Int) : String :=
  if offset = 0 then "datetime.timezone.utc" else s!"datetime.timezone({spanText offset})"

/-- A moment by its numbers. -/
def quoted (moment : Moment) : String :=
  let date := s!"{moment.year}, {moment.month}, {moment.day}"
  match moment.time with
  | none => s!"datetime.date({date})"
  | some time =>
    let second := if time.second = 0 && time.micro = 0 then "" else s!", {time.second}"
    let micro := if time.micro = 0 then "" else s!", {time.micro}"
    let offset := match time.offset with
      | none => ""
      | some offset => ", tzinfo=" ++ quotedOffset offset
    s!"datetime.datetime({date}, {time.hour}, {time.minute}{second}{micro}{offset})"

/-! ## Order -/

/-- The days before a date, counted from the first of January of the year 0. -/
def dayNumber (moment : Moment) : Int :=
  let before := moment.year - 1
  let leapDays := before / 4 - before / 100 + before / 400
  let months := (List.range (moment.month - 1)).foldl
    (fun days month => days + daysIn moment.year (month + 1)) 0
  365 * before + leapDays + months + (moment.day - 1)

/-- The number of the first of January 1970. -/
def clockDay : Int := dayNumber { year := 1970, month := 1, day := 1 }

/-- The microseconds from the start of 1970 to a moment, in universal time if its offset is known. -/
def clockMicros (moment : Moment) : Int :=
  let days := moment.dayNumber - clockDay
  match moment.time with
  | none => days * daySeconds * 1000000
  | some time =>
    let seconds : Int := 3600 * time.hour + 60 * time.minute + time.second
    (days * daySeconds + seconds - time.offset.getD 0) * 1000000 + time.micro

/-- Two moments are the same point in time, or the same date. -/
def same (one other : Moment) : Bool :=
  match one.time, other.time with
  | none, none => one == other
  | some time, some otherTime =>
    time.offset.isSome == otherTime.offset.isSome && one.clockMicros == other.clockMicros
  | _, _ => false

end Moment

end Evacuation.Yaml
