import Evacuation.Text.Digit
import Evacuation.Text.Split
/-!
# Numeric addresses

An address of four bytes is written as up to four numbers between dots: the last one fills the
bytes that are left, and each may be written in hexadecimal, octal or decimal digits. The strict
form has four numbers in decimal digits without leading zeros. An address of eight groups is
written as hexadecimal numbers between colons; one run of zero groups may be left out, and the
last two groups may be written as an address of four bytes in the strict form. A zone may follow a
percent sign.
-/
namespace Evacuation.Host

/-! ## Four bytes -/

/-- The digits of a number in a base, if all are. -/
def digitsIn? (base : Nat) (digits : List Char) : Option Nat :=
  if digits.all fun c => (Text.hexValue? c).any (· < base) then
    some (digits.foldl (fun number c => base * number + (Text.hexValue? c).getD 0) 0)
  else none

/-- A number in hexadecimal digits after `0x`, in octal digits after `0`, or in decimal digits. -/
def cNumber? : List Char → Option Nat
  | [] => none
  | '0' :: 'x' :: digits | '0' :: 'X' :: digits =>
    if digits.isEmpty then none else digitsIn? 16 digits
  | '0' :: digits => digitsIn? 8 digits
  | digits => digitsIn? 10 digits

/-- The number that bytes stand for, most significant first. -/
def ofBytes (bytes : List Nat) : Nat := bytes.foldl (fun number byte => 256 * number + byte) 0

/-- The bytes of a number, most significant first, so many of them. -/
def toBytes : (count : Nat) → Nat → List Nat
  | 0, _ => []
  | count + 1, number => toBytes count (number / 256) ++ [number % 256]

/-- The four bytes of numbers of which the last one fills the bytes that are left. -/
def fourBytes? (before : List Nat) : List Nat → Option (List Nat)
  | [] => none
  | [last] =>
    let left := 4 - before.length
    if before.length < 4 ∧ ofBytes (toBytes left last) = last
    then some (before ++ toBytes left last) else none
  | number :: rest => if number < 256 then fourBytes? (before ++ [number]) rest else none

/-- The four bytes of an address. -/
def fourByteAddress? (text : List Char) : Option (List Nat) := do
  fourBytes? [] (← (Text.splitAll '.' text).mapM cNumber?)

/-- A byte in decimal digits without leading zeros. -/
def strictByte? (digits : List Char) : Option Nat :=
  match digits with
  | ['0'] => some 0
  | [] | '0' :: _ => none
  | _ => if digits.length ≤ 3 then (digitsIn? 10 digits).filter (· < 256) else none

/-- The four bytes of an address in the strict form. -/
def strictAddress? (text : List Char) : Option (List Nat) := do
  let bytes ← (Text.splitAll '.' text).mapM strictByte?
  if bytes.length = 4 then some bytes else none

/-- Four bytes in the strict form. -/
def dotted (bytes : List Nat) : String := ".".intercalate (bytes.map toString)

/-- Bytes that are left are filled by the last number. -/
example : fourByteAddress? "127.1".toList = some [127, 0, 0, 1] := by decide +kernel

/-! ## Eight groups -/

/-- A group of one to four hexadecimal digits. -/
def group? (digits : List Char) : Option Nat :=
  if digits.isEmpty || 4 < digits.length then none else digitsIn? 16 digits

/-- Groups, the last of which may be an address of four bytes, which makes two. -/
def groups? : List (List Char) → Option (List Nat)
  | [] => some []
  | [last] =>
    match strictAddress? last with
    | some [a, b, c, d] => some [256 * a + b, 256 * c + d]
    | _ => (group? last).map fun group => [group]
  | part :: rest => do return (← group? part) :: (← groups? rest)

/-- Groups before a run that is left out, none of which may be an address of four bytes. -/
def plainGroups? (parts : List (List Char)) : Option (List Nat) := parts.mapM group?

/-- The parts before the first empty one and after it. -/
def splitEmpty : List (List Char) → Option (List (List Char) × List (List Char))
  | [] => none
  | [] :: rest => some ([], rest)
  | part :: rest => (splitEmpty rest).map fun found => (part :: found.1, found.2)

/-- The groups around a run of zero groups that is left out. -/
def fillGroups (front back : List Nat) : Option (List Nat) :=
  if front.length + back.length < 8 then
    some (front ++ List.replicate (8 - front.length - back.length) 0 ++ back)
  else none

/-- The eight groups of an address. -/
def eightGroups? (text : List Char) : Option (List Nat) :=
  match Text.splitAll ':' text with
  | [[], [], []] => fillGroups [] []
  | [] :: [] :: part :: rest => do fillGroups [] (← groups? (part :: rest))
  | parts =>
    match splitEmpty parts with
    | none => (groups? parts).filter (·.length == 8)
    | some (front, [[]]) => do
      if front.isEmpty then none else fillGroups (← plainGroups? front) []
    | some (front, back) => do
      if front.isEmpty || back.isEmpty then none
      else fillGroups (← plainGroups? front) (← groups? back)

/-- An address of eight groups and its zone, if it has one. -/
def zonedGroups? (text : List Char) : Option (List Nat × Option (List Char)) :=
  match Text.splitFirst '%' text with
  | none => (eightGroups? text).map (·, none)
  | some (address, zone) => (eightGroups? address).map (·, some zone)

/-- The four bytes that eight groups stand for, if they stand for four bytes. -/
def mappedBytes? (groups : List Nat) : Option (List Nat) :=
  match groups with
  | [0, 0, 0, 0, 0, 0xFFFF, high, low] => some (toBytes 2 high ++ toBytes 2 low)
  | _ => none

/-- A run of zero groups may stand at the front. -/
example : eightGroups? "::1".toList = some [0, 0, 0, 0, 0, 0, 0, 1] := by decide +kernel

end Evacuation.Host
