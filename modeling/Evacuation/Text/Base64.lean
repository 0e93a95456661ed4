/-!
# Bytes in six bits each

Bytes may be written with 64 characters, each of which stands for six bits, so that four of them
make three bytes. Equals signs fill up the last four. Other characters do not count.
-/
namespace Evacuation.Text.Base64

/-- Why a text stands for no bytes. -/
inductive Fault where
  /-- Of so many characters the last one stands alone. -/
  | lone (count : Nat)
  /-- The last characters are not filled up. -/
  | unfilled
  deriving DecidableEq, Repr

/-- The text that reports a fault. -/
def Fault.message : Fault → String
  | .lone count =>
    s!"Invalid base64-encoded string: number of data characters ({count}) cannot be 1 more than " ++
      "a multiple of 4"
  | .unfilled => "Incorrect padding"

/-- The bits of a character. -/
def value? (c : Char) : Option Nat :=
  if 'A' ≤ c ∧ c ≤ 'Z' then some (c.toNat - 'A'.toNat)
  else if 'a' ≤ c ∧ c ≤ 'z' then some (c.toNat - 'a'.toNat + 26)
  else if '0' ≤ c ∧ c ≤ '9' then some (c.toNat - '0'.toNat + 52)
  else if c = '+' then some 62
  else if c = '/' then some 63
  else none

/-- What is known behind some characters. -/
structure State where
  /-- How many of the last four characters are there. -/
  position : Nat := 0
  /-- The bits of the last character that belong to the next byte. -/
  held : Nat := 0
  /-- The equals signs since the last character. -/
  fills : Nat := 0
  /-- The bytes so far, the last one first. -/
  bytes : List UInt8 := []

/-- One more character that counts. -/
def State.add (state : State) (value : Nat) : State :=
  let byte (shift : Nat) : List UInt8 :=
    UInt8.ofNat (state.held * (64 / shift) + value / shift) :: state.bytes
  match state.position with
  | 0 => { state with position := 1, held := value, fills := 0 }
  | 1 => ⟨2, value % 16, 0, byte 16⟩
  | 2 => ⟨3, value % 4, 0, byte 4⟩
  | _ => ⟨0, 0, 0, byte 1⟩

/-- The bytes that a text stands for, behind what is known. -/
def decodeFrom (state : State) : List Char → Except Fault (List UInt8)
  | [] =>
    match state.position with
    | 0 => .ok state.bytes.reverse
    | 1 => .error (.lone (state.bytes.length / 3 * 4 + 1))
    | _ => .error .unfilled
  | c :: rest =>
    if c = '=' then
      if state.position < 2 then decodeFrom state rest
      else if 4 ≤ state.position + state.fills + 1 then .ok state.bytes.reverse
      else decodeFrom { state with fills := state.fills + 1 } rest
    else
      match value? c with
      | some value => decodeFrom (state.add value) rest
      | none => decodeFrom state rest

/-- The bytes that a text stands for. -/
def decode (text : List Char) : Except Fault (List UInt8) := decodeFrom {} text

/-- Three bytes are written with four characters. -/
example : (decode "YWJj".toList).toOption = some [97, 98, 99] := by decide +kernel

/-- One byte needs two of them, filled up. -/
example : (decode "YQ==".toList).toOption = some [97] := by decide +kernel

end Evacuation.Text.Base64
