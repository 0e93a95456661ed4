/-!
# Characters of all scripts in Latin letters and digits

A text of any characters is written in Latin letters, digits and hyphens: first come its plain
characters, then a hyphen, then the others in the order of their code points. Each of these is
given by how far it is from the one before, counted in places where it could stand; this distance
is written in digits of base 36, least significant first, with thresholds that say where a number
ends. The thresholds follow the size of the distances seen so far.
-/
namespace Evacuation.Host.Punycode

/-- The digit of a value: the letters, and then the Latin digits. -/
def digit (value : Nat) : Char :=
  if value < 26 then Char.ofNat ('a'.toNat + value) else Char.ofNat ('0'.toNat + (value - 26))

/-- The threshold of a digit: a digit below it is the last of its number. -/
def threshold (place bias : Nat) : Nat :=
  if place ≤ bias then 1 else if bias + 26 ≤ place then 26 else place - bias

/-- Thresholds lie between 1 and 26. -/
theorem threshold_bounds (place bias : Nat) :
    1 ≤ threshold place bias ∧ threshold place bias ≤ 26 := by
  unfold threshold
  split
  · omega
  · split <;> omega

/-- The digits of a distance, from a place on. -/
def distanceDigits (bias place distance : Nat) : List Char :=
  let least := threshold place bias
  if distance < least then [digit distance]
  else
    digit (least + (distance - least) % (36 - least)) ::
      distanceDigits bias (place + 36) ((distance - least) / (36 - least))
termination_by distance
decreasing_by
  have bounds := threshold_bounds place bias
  exact Nat.lt_of_le_of_lt (Nat.div_le_self _ _) (by omega)

/-- A distance made small by dividing, and what that adds to the bias. -/
def scaleDown (distance added : Nat) : Nat × Nat :=
  if 455 < distance then scaleDown (distance / 35) (added + 36) else (distance, added)
termination_by distance
decreasing_by exact Nat.div_lt_self (by omega) (by omega)

/-- The bias after a distance, with so many characters written. -/
def adapt (distance written : Nat) (isFirst : Bool) : Nat :=
  let halved := if isFirst then distance / 700 else distance / 2
  let (rest, added) := scaleDown (halved + halved / written) 0
  added + 36 * rest / (rest + 38)

/-- How far a text has been written. -/
structure Progress where
  digits : List Char := []
  distance : Nat := 0
  bias : Nat := 72
  /-- The number of characters written. -/
  written : Nat

/-- After one character of the text, when the characters of one code point are written. -/
def step (plain code : Nat) (progress : Progress) (c : Char) : Progress :=
  if c.toNat < code then { progress with distance := progress.distance + 1 }
  else if c.toNat = code then
    { digits := progress.digits ++ distanceDigits progress.bias 36 progress.distance
      distance := 0
      bias := adapt progress.distance (progress.written + 1) (progress.written == plain)
      written := progress.written + 1 }
  else progress

/-- A code point in its place among ascending ones, unless it is there. -/
def placeCode (code : Nat) : List Nat → List Nat
  | [] => [code]
  | other :: codes =>
    if code < other then code :: other :: codes
    else if code = other then other :: codes
    else other :: placeCode code codes

/-- Write the characters of the given code points, the next one being expected at some code. -/
def writeCodes (text : List Char) (plain : Nat) : (codes : List Nat) → (expected : Nat) →
    Progress → Progress
  | [], _, progress => progress
  | code :: codes, expected, progress =>
    let reached := { progress with
      distance := progress.distance + (code - expected) * (progress.written + 1) }
    let after := text.foldl (step plain code) reached
    writeCodes text plain codes (code + 1) { after with distance := after.distance + 1 }

/-- A plain character. -/
def isPlain (c : Char) : Bool := c.toNat < 0x80

/-- A text in Latin letters, digits and hyphens. -/
def encode (text : List Char) : List Char :=
  let plain := text.filter isPlain
  let codes := (text.filter (!isPlain ·)).foldr (fun c codes => placeCode c.toNat codes) []
  let others := (writeCodes text plain.length codes 0x80 { written := plain.length }).digits
  plain ++ (if plain.isEmpty then [] else ['-']) ++ others

/-- A name with one letter beyond the plain ones. -/
example : encode ['b', 'ü'] = ['b', '-', 'e', 'h', 'a'] := by cbv

end Evacuation.Host.Punycode
