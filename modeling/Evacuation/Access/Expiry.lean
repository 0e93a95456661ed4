import Evacuation.Access.Machine
import Evacuation.Access.Part
import Evacuation.Decimal.Integer
import Evacuation.Time.Calendar
/-!
# When tokens expire

A token tells the point in time at which it expires, in one of several forms. Providers that can give
another token ask for it a while before that (`isOver`); one that cannot compares the time as it is
(`tellsPast`).
-/
namespace Evacuation.Access

open Yaml (Moment)

/-! ## A while before the end -/

/-- The seconds by which a token is taken to expire early. -/
def earlySeconds : Int := 300

/-- The offset of a moment from universal time. -/
def offsetIn (moment : Moment) : Int := (moment.time.bind (·.offset)).getD 0

/-- The microseconds from the start of 1970 to the first moment of a calendar, which is long
before. -/
def firstMicros : Int := ({ year := 1, month := 1, day := 1 } : Moment).clockMicros

/-- What is wrong with an offset of a day or more. -/
def longOffset : String :=
  "offset must be a timedelta strictly between -timedelta(hours=24) and timedelta(hours=24)."

/-- A point in time, in microseconds since the start of 1970, is so near or lies so far back that a
token has expired. The offset is the one with which it was told. -/
def isOver (machine : Machine) (micros offset : Int) : Except AccessError Bool :=
  let early := micros - earlySeconds * 1000000
  if early + offset * 1000000 < firstMicros then .error (.token .tooEarly)
  else if Moment.daySeconds ≤ offset.natAbs then .error (.token (.date longOffset))
  else
    match machine.now with
    | none => .ok false
    | some now => .ok (decide (early ≤ now * 1000000))

/-! ## Moments inside texts -/

/-- The offset at the front of a text; universal time if there is none. -/
def offsetOf (text : List Char) : Int :=
  match text with
  | sign :: rest =>
    if sign == '+' || sign == '-' then
      match Moment.numberBefore? ':' 1 2 rest with
      | some (hours, rest) =>
        match Moment.number? 2 2 rest with
        | some (minutes, _) =>
          let size : Int := 3600 * hours + 60 * minutes
          if sign == '-' && hours != 0 then -size else size
        | none => 0
      | none => 0
    else 0
  | [] => 0

/-- The moment at the front of a text: a date, a time of day and an offset. -/
def momentAt? (text : List Char) : Option Moment := do
  let (year, rest) ← Moment.numberBefore? '-' 4 4 text
  let (month, rest) ← Moment.numberBefore? '-' 2 2 rest
  let (day, rest) ← Moment.number? 2 2 rest
  let rest ← Moment.after? (fun c => c == ' ' || c == 'T' || c == 't') rest
  let (hour, rest) ← Moment.numberBefore? ':' 2 2 rest
  let (minute, rest) ← Moment.numberBefore? ':' 2 2 rest
  let (second, rest) ← Moment.number? 2 2 rest
  let (fraction, rest) := match rest with
    | '.' :: more | ',' :: more =>
      if (more.head?.any Char.isDigit) then
        (more.takeWhile Char.isDigit, more.dropWhile Char.isDigit)
      else ([], rest)
    | rest => ([], rest)
  let time := ⟨hour, minute, second, Moment.micros fraction, some (offsetOf rest)⟩
  return { year, month, day, time := some time }

/-- The first moment in a text. -/
def firstMoment? : List Char → Option Moment
  | [] => none
  | c :: rest => (momentAt? (c :: rest)).or (firstMoment? rest)

/-- The moment that an item tells, which is a moment or a text with one. -/
def momentOf (item : Item) : Except AccessError Moment :=
  match item with
  | .bare (.moment moment) =>
    if moment.time.isSome then .ok moment
    else .error (.misuse (.noText item.kindName))
  | .bare (.text text) =>
    match firstMoment? text.toList with
    | none => .error (.token (.noDate text))
    | some found =>
      match (Moment.dateFault? found.year found.month found.day).or
          (found.time.bind Moment.timeFault?) with
      | some report => .error (.token (.date report))
      | none => .ok found
  | item => .error (.misuse (.noText item.kindName))

/-- A member tells a moment at which a token has expired. -/
def hasExpired (machine : Machine) (owner : Item) (key : String) : Except AccessError Bool := do
  if ← owner.has key then
    let moment ← momentOf (← owner.get key)
    isOver machine moment.clockMicros (offsetIn moment)
  else return false

/-! ## Past times -/

/-- A number of one or two digits between bounds, and the rest behind a character of a kind. -/
def fieldBefore? (isEnd : Char → Bool) (least most : Nat) (text : List Char) :
    Option (Nat × List Char) := do
  let (value, rest) ← Moment.number? 1 2 text
  if value < least || most < value then none
  return (value, ← Moment.after? isEnd rest)

/-- The date and the time at the front of a text, with a fraction of a second at its end, and the
rest. -/
def plainMoment? (text : List Char) : Option (Moment × List Char) := do
  let (year, rest) ← Moment.numberBefore? '-' 4 4 text
  let (month, rest) ← fieldBefore? (· == '-') 1 12 rest
  let rest := match rest with
    | ' ' :: '0' :: _ => rest
    | ' ' :: more => if more.head?.any Char.isDigit then '0' :: more else rest
    | rest => rest
  let (day, rest) ← fieldBefore? Text.isBlank 1 31 rest
  let (hour, rest) ← fieldBefore? (· == ':') 0 23 (rest.dropWhile Text.isBlank)
  let (minute, rest) ← fieldBefore? (· == ':') 0 59 rest
  let (second, rest) ← fieldBefore? (· == '.') 0 61 rest
  let (_, rest) ← Moment.number? 1 6 rest
  return ({ year, month, day, time := some ⟨hour, minute, second, 0, none⟩ }, rest)

/-- The seconds since the start of 1970 to the moment that a text tells. -/
def plainSeconds (text : String) : Except TokenError Int :=
  match plainMoment? text.toList with
  | none => .error (.form text)
  | some (moment, rest) =>
    if !rest.isEmpty then .error (.formRest (String.ofList rest))
    else
      match Moment.dateFault? moment.year moment.month moment.day with
      | some report => .error (.date report)
      | none => .ok (moment.clockMicros / 1000000)

/-- A text tells a count of seconds or a point in time that lies in the past. -/
def tellsPast (machine : Machine) (text : String) : Except TokenError Bool := do
  let isCount := !text.isEmpty && text.toList.all Text.isDigit
  let seconds ← if isCount then (Decimal.readInteger text).mapError .number else plainSeconds text
  return machine.now.any (seconds < ·)

end Evacuation.Access
