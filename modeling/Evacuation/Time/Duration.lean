import Evacuation.Malformed
import Evacuation.Text.Blank
import Evacuation.Text.Digit
import Evacuation.Time.Scale
/-!
# Durations

A duration is written as an optional sign and a sequence of parts, each a decimal number and a
unit of time, as in `1h30m` or `-1.5s`; a bare `0` needs no unit. Reading goes in two steps: the
text is cut into parts (`readWritten`), and the parts are summed from left to right on a time
scale. Each part takes at least one character (`readPart_length_lt`), and the cut is the only one
there is, because digits are no units and `m` before `s` always belongs to `ms`.
-/
namespace Evacuation.Duration

/-- Units of time. -/
inductive TimeUnit where
  | hour
  | minute
  | second
  | millisecond
  | microsecond
  | nanosecond
  deriving DecidableEq, Repr

/-- A unit in seconds, on a time scale. -/
def TimeUnit.seconds {T : Type} [TimeScale T] : TimeUnit → T
  | .hour => TimeScale.ofDecimal 3600 0
  | .minute => TimeScale.ofDecimal 60 0
  | .second => TimeScale.ofDecimal 1 0
  | .millisecond => TimeScale.ofDecimal 1 3
  | .microsecond => TimeScale.ofDecimal 1 6
  | .nanosecond => TimeScale.ofDecimal 1 9

/-- One part of a duration: the digits before and after the point, and the unit. -/
structure Part where
  whole : List Char
  fraction : List Char
  unit : TimeUnit
  deriving DecidableEq, Repr

/-- A part in seconds: its number, rounded to the scale, times its unit. -/
def Part.seconds {T : Type} [TimeScale T] (part : Part) : T :=
  TimeScale.ofDecimal (Text.decimalNumber (part.whole ++ part.fraction)) part.fraction.length *
    part.unit.seconds

/-- A number at the start of a text: digits before and after the point, and the rest. One of the
two groups of digits may be empty; without a point the second is. -/
def readNumber (text : List Char) : Option (List Char × List Char × List Char) :=
  let whole := text.takeWhile Text.isDecimal
  match text.dropWhile Text.isDecimal with
  | '.' :: rest =>
    let fraction := rest.takeWhile Text.isDecimal
    if whole.isEmpty && fraction.isEmpty then none
    else some (whole, fraction, rest.dropWhile Text.isDecimal)
  | rest => if whole.isEmpty then none else some (whole, [], rest)

/-- A unit at the start of a text, and the rest. -/
def readUnit : List Char → Option (TimeUnit × List Char)
  | 'n' :: 's' :: rest => some (.nanosecond, rest)
  | 'u' :: 's' :: rest => some (.microsecond, rest)
  | 'µ' :: 's' :: rest => some (.microsecond, rest)
  | 'm' :: 's' :: rest => some (.millisecond, rest)
  | 's' :: rest => some (.second, rest)
  | 'm' :: rest => some (.minute, rest)
  | 'h' :: rest => some (.hour, rest)
  | _ => none

/-- A part at the start of a text, and the rest. -/
def readPart (text : List Char) : Option (Part × List Char) :=
  (readNumber text).bind fun number =>
    (readUnit number.2.2).map fun unit => (⟨number.1, number.2.1, unit.1⟩, unit.2)

theorem readNumber_length_le {text : List Char} {number : List Char × List Char × List Char}
    (read : readNumber text = some number) : number.2.2.length ≤ text.length := by
  have shorter := (List.dropWhile_sublist Text.isDecimal (l := text)).length_le
  unfold readNumber at read
  dsimp only at read
  split at read
  · rename_i rest after
    rw [after, List.length_cons] at shorter
    have next := (List.dropWhile_sublist Text.isDecimal (l := rest)).length_le
    split at read
    · simp at read
    · obtain rfl := Option.some.inj read
      dsimp only
      omega
  · split at read
    · simp at read
    · obtain rfl := Option.some.inj read
      exact shorter

theorem readUnit_length_lt {text : List Char} {unit : TimeUnit × List Char}
    (read : readUnit text = some unit) : unit.2.length < text.length := by
  unfold readUnit at read
  split at read <;> first
    | (obtain rfl := Option.some.inj read; simp only [List.length_cons]; omega)
    | simp at read

/-- A part takes at least one character. -/
theorem readPart_length_lt {text : List Char} {part : Part × List Char}
    (read : readPart text = some part) : part.2.length < text.length := by
  obtain ⟨number, first, second⟩ := Option.bind_eq_some_iff.1 read
  obtain ⟨unit, last, rfl⟩ := Option.map_eq_some_iff.1 second
  have := readNumber_length_le first
  have := readUnit_length_lt last
  dsimp only
  omega

/-- The parts of a text that consists of parts only. -/
def readParts (text : List Char) : Option (List Part) :=
  match _read : readPart text with
  | some part => (readParts part.2).map (part.1 :: ·)
  | none => if text.isEmpty then some [] else none
termination_by text.length
decreasing_by exact readPart_length_lt ‹_›

/-- A duration as written: its sign and its parts. -/
structure Written where
  negative : Bool
  parts : List Part
  deriving DecidableEq, Repr

/-- The sign a text starts with, and the rest. -/
def readSign : List Char → Bool × List Char
  | '+' :: rest => (false, rest)
  | '-' :: rest => (true, rest)
  | text => (false, text)

/-- A duration without blanks around it. A bare `0` has no parts and no sign; any other text needs
at least one part. -/
def readWritten (text : List Char) : Option Written :=
  let signed := readSign text
  if signed.2 = ['0'] then some ⟨false, []⟩
  else if signed.2.isEmpty then none
  else (readParts signed.2).map fun parts => ⟨signed.1, parts⟩

variable {T : Type} [TimeScale T]

/-- The sum of parts, from left to right. -/
def total (parts : List Part) : T :=
  parts.foldl (fun sum part => sum + part.seconds) TimeScale.zero

/-- A written duration in seconds. -/
def Written.seconds (written : Written) : T :=
  TimeScale.ofInt (if written.negative then -1 else 1) * total written.parts

/-- The seconds of the duration written in a text, blanks around it aside. -/
def read (text : String) : Except Malformed T :=
  match readWritten (Text.strip text.toList) with
  | some written => .ok written.seconds
  | none => .error (.duration text)

end Evacuation.Duration
