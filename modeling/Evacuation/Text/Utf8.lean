import Evacuation.Text.Quoted
/-!
# Text in bytes

A character is one to four bytes: the first byte tells how many, and the others follow from a range.
Bytes that are no text are reported with the first character that cannot be read.
-/
namespace Evacuation.Text.Utf8

/-- The number of bytes in the encoding of a character that a byte begins, and the range of the
second of them. -/
def encodingOf (byte : UInt8) : Option (Nat × UInt8 × UInt8) :=
  if byte < 0x80 then some (1, 0x80, 0xBF)
  else if byte < 0xC2 then none
  else if byte < 0xE0 then some (2, 0x80, 0xBF)
  else if byte == 0xE0 then some (3, 0xA0, 0xBF)
  else if byte == 0xED then some (3, 0x80, 0x9F)
  else if byte < 0xF0 then some (3, 0x80, 0xBF)
  else if byte == 0xF0 then some (4, 0x90, 0xBF)
  else if byte < 0xF4 then some (4, 0x80, 0xBF)
  else if byte == 0xF4 then some (4, 0x80, 0x8F)
  else none

/-- How many of the bytes behind the first one of a character belong to it, of so many at most. -/
def followers (low high : UInt8) : Nat → List UInt8 → Nat
  | 0, _ | _, [] => 0
  | count + 1, byte :: rest =>
    if low ≤ byte && byte ≤ high then followers 0x80 0xBF count rest + 1 else 0

/-- Why bytes are no text. -/
inductive Cause where
  /-- No character begins with the byte. -/
  | start
  /-- A byte does not continue the character. -/
  | continuation
  /-- The bytes end inside the character. -/
  | ended
  deriving DecidableEq, Repr

/-- The text of a cause. -/
def Cause.report : Cause → String
  | start => "invalid start byte"
  | continuation => "invalid continuation byte"
  | ended => "unexpected end of data"

/-- Bytes that are no text: the place of the first one, that byte, how many of them belong to the
character, and why it cannot be read. -/
structure Fault where
  place : Nat
  first : UInt8
  count : Nat
  cause : Cause
  deriving DecidableEq, Repr

/-- The text that reports bytes that are no text. -/
def Fault.message (fault : Fault) : String :=
  let which :=
    if fault.count = 1 then
      s!"byte 0x{String.ofList (hexDigits 2 fault.first.toNat)} in position {fault.place}"
    else s!"bytes in position {fault.place}-{fault.place + fault.count - 1}"
  s!"'utf-8' codec can't decode {which}: {fault.cause.report}"

/-- The first fault of bytes behind so many others, in at most so many steps. -/
def faultFrom : Nat → (place : Nat) → List UInt8 → Option Fault
  | 0, _, _ | _, _, [] => none
  | steps + 1, place, byte :: rest =>
    match encodingOf byte with
    | none => some ⟨place, byte, 1, .start⟩
    | some (size, low, high) =>
      let found := followers low high (size - 1) rest
      if found + 1 < size then
        some ⟨place, byte, found + 1, if rest.length ≤ found then .ended else .continuation⟩
      else faultFrom steps (place + size) (rest.drop found)

/-- The text of bytes. -/
def decode (bytes : List UInt8) : Except Fault String :=
  match faultFrom bytes.length 0 bytes with
  | some fault => .error fault
  | none => .ok ((String.fromUTF8? (ByteArray.mk bytes.toArray)).getD "")

end Evacuation.Text.Utf8
