import Mathlib.Data.List.Forall2
import Mathlib.Data.List.TakeWhile
import Mathlib.Data.Rat.Lemmas
import Mathlib.Tactic.NormNum
import Mathlib.Tactic.Ring
import Evacuation.Time.Duration
/-!
# How durations are written

A duration is spelled as an optional sign and either a bare `0` or parts, each a number and the
letters of a unit. The grammar is given here by itself (`Cut`, `Spelled`), with numbers that may lack
the digits on one side of the point. The main statement, `read_spelled`, says that exactly what the
grammar allows is read, that it is read as the signed sum of its parts, and that it can be cut into
parts in one way only.

The reader takes as many digits as there are and the longest unit, and never tries again. That this
misses nothing rests on what can stand behind a part: another part, which begins with a digit or a
point. So no unit goes on with the `s` that would turn `m` into `ms`.
-/
namespace Evacuation.Duration

/-! ## The grammar -/

/-- Decimal digits of any script. -/
def IsDigits (text : List Char) : Prop := ∀ c ∈ text, Text.isDecimal c = true

/-- A number as it is written, with its digits before and after the point. -/
inductive NumberWritten : (text whole fraction : List Char) → Prop where
  | whole {digits : List Char} (filled : digits ≠ []) (decimal : IsDigits digits) :
      NumberWritten digits digits []
  | pointed {whole fraction : List Char} (filled : whole ≠ []) (decimal : IsDigits whole)
      (further : IsDigits fraction) : NumberWritten (whole ++ '.' :: fraction) whole fraction
  | fraction {fraction : List Char} (filled : fraction ≠ []) (decimal : IsDigits fraction) :
      NumberWritten ('.' :: fraction) [] fraction

/-- The letters of a unit. Microseconds have two spellings. -/
inductive UnitWritten : List Char → TimeUnit → Prop where
  | hour : UnitWritten ['h'] .hour
  | minute : UnitWritten ['m'] .minute
  | second : UnitWritten ['s'] .second
  | millisecond : UnitWritten ['m', 's'] .millisecond
  | microsecond : UnitWritten ['u', 's'] .microsecond
  | micro : UnitWritten ['µ', 's'] .microsecond
  | nanosecond : UnitWritten ['n', 's'] .nanosecond

/-- A part as it is written: a number and the letters of a unit. -/
inductive PartWritten : List Char → Part → Prop where
  | intro {number letters whole fraction : List Char} {unit : TimeUnit}
      (counts : NumberWritten number whole fraction) (measures : UnitWritten letters unit) :
      PartWritten (number ++ letters) ⟨whole, fraction, unit⟩

/-- A text consists of pieces, each of which is a part as it is written. -/
structure Cut (text : List Char) (pieces : List (List Char)) (parts : List Part) : Prop where
  joined : pieces.flatten = text
  written : List.Forall₂ PartWritten pieces parts

/-- A text has a sign, or counts as positive without one, and then comes the rest. -/
inductive Signed : (text : List Char) → (sign : Int) → (rest : List Char) → Prop where
  | plus (rest : List Char) : Signed ('+' :: rest) 1 rest
  | minus (rest : List Char) : Signed ('-' :: rest) (-1) rest
  | unsigned {text : List Char} (no_plus : text.head? ≠ some '+')
      (no_minus : text.head? ≠ some '-') : Signed text 1 text

/-- A text spells parts with a sign. A bare `0` has no parts, and its sign does not count. -/
inductive Spelled (text : List Char) : (sign : Int) → List Part → Prop where
  | zero {sign : Int} (signed : Signed text sign ['0']) : Spelled text 1 []
  | parts {sign : Int} {rest : List Char} {pieces : List (List Char)} {parts : List Part}
      (signed : Signed text sign rest) (filled : parts ≠ []) (cut : Cut rest pieces parts) :
      Spelled text sign parts

/-! ## Numbers and units -/

section Digits

variable {digits rest : List Char}

theorem takeWhile_digits (decimal : IsDigits digits)
    (stops : ∀ c ∈ rest.head?, Text.isDecimal c = false) :
    (digits ++ rest).takeWhile Text.isDecimal = digits := by
  rw [List.takeWhile_append_of_pos decimal]
  cases rest with
  | nil => exact List.append_nil digits
  | cons c rest => simp [stops c rfl]

theorem dropWhile_digits (decimal : IsDigits digits)
    (stops : ∀ c ∈ rest.head?, Text.isDecimal c = false) :
    (digits ++ rest).dropWhile Text.isDecimal = rest := by
  rw [List.dropWhile_append_of_pos decimal]
  cases rest with
  | nil => rfl
  | cons c rest => simp [stops c rfl]

theorem isDigits_takeWhile (text : List Char) : IsDigits (text.takeWhile Text.isDecimal) :=
  fun _ => List.mem_takeWhile_imp

theorem not_isDecimal_point : Text.isDecimal '.' = false := by decide

end Digits

section Reading

variable {text rest number letters whole fraction : List Char} {unit : TimeUnit}

/-- What is read as a number is written as one. -/
theorem of_readNumber (read : readNumber text = some (whole, fraction, rest)) :
    ∃ number, number ++ rest = text ∧ NumberWritten number whole fraction := by
  have together := List.takeWhile_append_dropWhile (p := Text.isDecimal) (l := text)
  have decimal := isDigits_takeWhile text
  unfold readNumber at read
  dsimp only at read
  split at read
  · rename_i after pointed
    have further := isDigits_takeWhile after
    rw [pointed, ← List.takeWhile_append_dropWhile (p := Text.isDecimal) (l := after),
      ← List.cons_append, ← List.append_assoc] at together
    split at read
    · cases read
    · rename_i filled
      cases read
      refine ⟨_, together, ?_⟩
      cases digits : text.takeWhile Text.isDecimal with
      | nil =>
        rw [digits] at filled
        exact .fraction (by simpa using filled) further
      | cons c digits_left =>
        rw [digits] at decimal
        exact .pointed (List.cons_ne_nil _ _) decimal further
  · split at read
    · cases read
    · rename_i filled
      cases read
      exact ⟨_, together, .whole (by simpa using filled) decimal⟩

/-- A number is read as far as it goes, if neither a digit nor a point follows. -/
theorem readNumber_append (counts : NumberWritten number whole fraction)
    (stops : ∀ c ∈ rest.head?, Text.isDecimal c = false ∧ c ≠ '.') :
    readNumber (number ++ rest) = some (whole, fraction, rest) := by
  have no_digit : ∀ c ∈ rest.head?, Text.isDecimal c = false := fun c first => (stops c first).1
  have at_point (after : List Char) : ∀ c ∈ ('.' :: after).head?, Text.isDecimal c = false := by
    rintro c ⟨⟩
    exact not_isDecimal_point
  cases counts with
  | whole filled decimal =>
    simp only [readNumber, takeWhile_digits decimal no_digit, dropWhile_digits decimal no_digit]
    split
    · exact absurd rfl (stops '.' rfl).2
    · simp [filled]
  | pointed filled decimal further =>
    simp only [readNumber, List.append_assoc, List.cons_append,
      takeWhile_digits decimal (at_point _), dropWhile_digits decimal (at_point _),
      takeWhile_digits further no_digit, dropWhile_digits further no_digit]
    simp [filled]
  | fraction filled decimal =>
    have none_before : IsDigits [] := nofun
    have front := takeWhile_digits none_before (at_point (fraction ++ rest))
    have back := dropWhile_digits none_before (at_point (fraction ++ rest))
    simp only [List.nil_append] at front back
    simp only [readNumber, List.cons_append, front, back, takeWhile_digits decimal no_digit,
      dropWhile_digits decimal no_digit]
    simp [filled]

/-- What is read as a unit is written as one. -/
theorem of_readUnit (read : readUnit text = some (unit, rest)) :
    ∃ letters, letters ++ rest = text ∧ UnitWritten letters unit := by
  unfold readUnit at read
  split at read <;> cases read
  exacts [⟨_, rfl, .nanosecond⟩, ⟨_, rfl, .microsecond⟩, ⟨_, rfl, .micro⟩, ⟨_, rfl, .millisecond⟩,
    ⟨_, rfl, .second⟩, ⟨_, rfl, .minute⟩, ⟨_, rfl, .hour⟩]

/-- A unit is read as it is written, if no `s` follows. -/
theorem readUnit_append (measures : UnitWritten letters unit) (stops : rest.head? ≠ some 's') :
    readUnit (letters ++ rest) = some (unit, rest) := by
  cases measures with
  | minute =>
    simp only [List.cons_append, List.nil_append, readUnit]
    split
    all_goals simp_all
  | hour | second | millisecond | microsecond | micro | nanosecond => rfl

end Reading

/-! ## Parts -/

section Parts

variable {text rest piece number letters before after : List Char} {whole fraction : List Char}
  {pieces others : List (List Char)} {part : Part} {parts same : List Part} {unit : TimeUnit}

theorem NumberWritten.mem (counts : NumberWritten number whole fraction) :
    ∀ c ∈ number, Text.isDecimal c = true ∨ c = '.' := by
  intro c inside
  cases counts with
  | whole filled decimal => exact .inl (decimal c inside)
  | pointed filled decimal further =>
    obtain front | rfl | back := (List.mem_append.mp inside).imp_right List.mem_cons.mp
    exacts [.inl (decimal c front), .inr rfl, .inl (further c back)]
  | fraction filled decimal =>
    obtain rfl | back := List.mem_cons.mp inside
    exacts [.inr rfl, .inl (decimal c back)]

theorem NumberWritten.ne_nil (counts : NumberWritten number whole fraction) : number ≠ [] := by
  cases counts with
  | whole filled => exact filled
  | pointed => exact List.append_ne_nil_of_right_ne_nil _ (List.cons_ne_nil _ _)
  | fraction => exact List.cons_ne_nil _ _

/-- A part begins with a digit or a point. -/
theorem PartWritten.exists_eq_cons (written : PartWritten piece part) :
    ∃ c tail, piece = c :: tail ∧ (Text.isDecimal c = true ∨ c = '.') := by
  obtain ⟨counts, measures⟩ := written
  rename_i number letters _ _ _
  obtain ⟨c, tail, rfl⟩ := List.exists_cons_of_ne_nil counts.ne_nil
  exact ⟨c, tail ++ letters, rfl, counts.mem c (.head _)⟩

theorem UnitWritten.stops (measures : UnitWritten letters unit) (rest : List Char) :
    ∀ c ∈ (letters ++ rest).head?, Text.isDecimal c = false ∧ c ≠ '.' := by
  rintro c first
  cases measures <;> cases first <;> decide

/-- What is read as a part is written as one. -/
theorem of_readPart (read : readPart text = some (part, rest)) :
    ∃ piece, piece ++ rest = text ∧ PartWritten piece part := by
  obtain ⟨⟨whole, fraction, middle⟩, first, second⟩ := Option.bind_eq_some_iff.mp read
  obtain ⟨⟨unit, last⟩, second, same⟩ := Option.map_eq_some_iff.mp second
  obtain ⟨number, rfl, counts⟩ := of_readNumber first
  obtain ⟨letters, joined, measures⟩ := of_readUnit second
  cases same
  exact ⟨number ++ letters, by rw [List.append_assoc, joined], .intro counts measures⟩

/-- A part is read as it is written, if no `s` follows. -/
theorem readPart_append (written : PartWritten piece part) (stops : rest.head? ≠ some 's') :
    readPart (piece ++ rest) = some (part, rest) := by
  obtain ⟨counts, measures⟩ := written
  rw [List.append_assoc, readPart, readNumber_append counts (measures.stops rest)]
  simp only [Option.bind_some, readUnit_append measures stops, Option.map_some]

theorem cut_nil : Cut [] [] [] := ⟨rfl, .nil⟩

theorem Cut.cons (written : PartWritten piece part) (cut : Cut text pieces parts) :
    Cut (piece ++ text) (piece :: pieces) (part :: parts) :=
  ⟨by rw [List.flatten_cons, cut.joined], .cons written cut.written⟩

theorem Cut.append {first second : List Char} (cut : Cut first pieces parts)
    (further : Cut second others same) : Cut (first ++ second) (pieces ++ others) (parts ++ same) :=
  ⟨by rw [List.flatten_append, cut.joined, further.joined],
    List.rel_append cut.written further.written⟩

/-- A text that is cut into parts begins with a digit or a point. -/
theorem Cut.head (cut : Cut text pieces parts) :
    ∀ c ∈ text.head?, Text.isDecimal c = true ∨ c = '.' := by
  obtain ⟨rfl, written⟩ := cut
  cases written with
  | nil => exact nofun
  | cons first =>
    obtain ⟨c, tail, rfl, begins⟩ := first.exists_eq_cons
    rintro _ ⟨⟩
    exact begins

theorem not_begins_m : ¬ (Text.isDecimal 'm' = true ∨ 'm' = '.') := by decide

theorem not_begins_s : ¬ (Text.isDecimal 's' = true ∨ 's' = '.') := by decide

theorem Cut.head_ne (cut : Cut text pieces parts) : text.head? ≠ some 's' :=
  fun first => not_begins_s (cut.head 's' first)

theorem readParts_of_readPart (read : readPart text = some (part, rest)) :
    readParts text = (readParts rest).map (part :: ·) := by
  rw [readParts]
  split
  · rename_i found
    cases read.symm.trans found
    rfl
  · rename_i missing
    cases read.symm.trans missing

/-- Parts are read from a text exactly if it can be cut into them. -/
theorem readParts_eq_some_iff : readParts text = some parts ↔ ∃ pieces, Cut text pieces parts := by
  constructor
  · intro read
    fun_induction readParts text generalizing parts with
    | case1 text found first ih =>
      obtain ⟨tail, later, rfl⟩ := Option.map_eq_some_iff.mp read
      obtain ⟨pieces, cut⟩ := ih later
      obtain ⟨piece, joined, written⟩ := of_readPart first
      exact ⟨piece :: pieces, joined ▸ .cons written cut⟩
    | case2 text nothing empty =>
      obtain rfl := List.isEmpty_iff.mp empty
      cases read
      exact ⟨[], cut_nil⟩
    | case3 => cases read
  · rintro ⟨pieces, rfl, written⟩
    induction written with
    | nil =>
      rw [readParts]
      rfl
    | cons first others ih =>
      have later : Cut _ _ _ := ⟨rfl, others⟩
      rw [List.flatten_cons, readParts_of_readPart (readPart_append first later.head_ne), ih]
      rfl

/-- A text can be cut into parts in one way only. -/
theorem Cut.unique (cut : Cut text pieces parts) (again : Cut text others same) :
    pieces = others ∧ parts = same := by
  obtain ⟨rfl, written⟩ := cut
  induction written generalizing others same with
  | nil =>
    obtain ⟨joined, written⟩ := again
    cases written with
    | nil => exact ⟨rfl, rfl⟩
    | cons first =>
      obtain ⟨c, tail, rfl, _⟩ := first.exists_eq_cons
      cases joined
  | @cons piece part pieces parts first later ih =>
    have cut : Cut _ pieces parts := ⟨rfl, later⟩
    have reads := readPart_append first cut.head_ne
    obtain ⟨joined, written⟩ := again
    cases written with
    | nil =>
      obtain ⟨c, tail, rfl, _⟩ := first.exists_eq_cons
      cases joined
    | @cons other part' others parts' also rest =>
      have further : Cut _ others parts' := ⟨rfl, rest⟩
      have reads_again := readPart_append also further.head_ne
      rw [List.flatten_cons, List.flatten_cons] at joined
      rw [joined] at reads_again
      obtain ⟨rfl, tails⟩ := Prod.mk.inj (Option.some.inj (reads_again.symm.trans reads))
      rw [tails] at joined
      obtain rfl := List.append_cancel_right joined
      obtain ⟨rfl, rfl⟩ := ih ⟨tails, rest⟩
      exact ⟨rfl, rfl⟩

/-- An `m` is the first letter of its unit, and alone or before an `s`. -/
theorem UnitWritten.of_m {front back : List Char} (measures : UnitWritten letters unit)
    (same : letters = front ++ 'm' :: back) : front = [] ∧ (back = [] ∨ back = ['s']) := by
  cases measures <;> rcases front with _ | ⟨first, _ | ⟨second, front⟩⟩ <;> simp_all

/-- Where an `m` stands before an `s`, the two are the unit of one part. -/
theorem Cut.millisecond (cut : Cut text pieces parts) (here : text = before ++ 'm' :: 's' :: after) :
    ∃ front number whole fraction back, pieces = front ++ (number ++ ['m', 's']) :: back ∧
      before = front.flatten ++ number ∧ after = back.flatten ∧
        NumberWritten number whole fraction := by
  obtain ⟨rfl, written⟩ := cut
  induction written generalizing before with
  | nil => simp at here
  | @cons piece part pieces parts first later ih =>
    have cut : Cut _ pieces parts := ⟨rfl, later⟩
    rw [List.flatten_cons] at here
    obtain ⟨tail, rfl, onward⟩ | ⟨inner, split, overlap⟩ := List.append_eq_append_iff.mp here
    · obtain ⟨front, number, whole, fraction, back, rfl, rfl, ends, counts⟩ := ih onward
      exact ⟨piece :: front, number, whole, fraction, back, rfl, (List.append_assoc ..).symm, ends, counts⟩
    · obtain ⟨counts, measures⟩ := first
      rename_i number letters whole fraction unit
      cases inner with
      | nil =>
        rw [List.nil_append] at overlap
        exact absurd (cut.head 'm' (by rw [← overlap]; rfl)) not_begins_m
      | cons c inner =>
        obtain ⟨rfl, onward⟩ := List.cons.inj overlap
        clear overlap
        -- The `m` is no character of the number, so it is one of the unit.
        have unit_split : ∃ left, before = number ++ left ∧ letters = left ++ 'm' :: inner := by
          obtain in_unit | ⟨right, digits, rest⟩ := List.append_eq_append_iff.mp split
          · exact in_unit
          · cases right with
            | nil => exact ⟨[], by rw [digits, List.append_nil, List.append_nil], rest.symm⟩
            | cons c right =>
              obtain ⟨rfl, -⟩ := List.cons.inj rest
              have inside : 'm' ∈ number := by rw [digits]; simp
              exact absurd (counts.mem 'm' inside) not_begins_m
        obtain ⟨left, rfl, spelled⟩ := unit_split
        obtain ⟨rfl, rfl | rfl⟩ := measures.of_m spelled
        · rw [List.append_eq, List.nil_append] at onward
          exact absurd (by rw [← onward]; rfl) cut.head_ne
        · rw [List.nil_append] at spelled
          subst spelled
          exact ⟨[], number, whole, fraction, pieces, rfl, List.append_nil _, (List.cons.inj onward).2, counts⟩

end Parts

/-! ## Signs -/

section Signs

variable {text rest : List Char} {sign : Int} {parts : List Part}

/-- The sign as a number. -/
def signOf (negative : Bool) : Int := if negative then -1 else 1

theorem signed_readSign (text : List Char) :
    Signed text (signOf (readSign text).1) (readSign text).2 := by
  unfold readSign
  split
  · exact .plus _
  · exact .minus _
  · rename_i no_plus no_minus
    refine .unsigned (fun first => ?_) fun first => ?_
    · obtain ⟨rest, rfl⟩ := List.head?_eq_some_iff.mp first
      exact no_plus rest rfl
    · obtain ⟨rest, rfl⟩ := List.head?_eq_some_iff.mp first
      exact no_minus rest rfl

theorem readSign_of_unsigned (no_plus : text.head? ≠ some '+') (no_minus : text.head? ≠ some '-') :
    readSign text = (false, text) := by
  unfold readSign
  split
  · exact absurd rfl no_plus
  · exact absurd rfl no_minus
  · rfl

theorem Signed.readSign_eq (signed : Signed text sign rest) :
    signOf (readSign text).1 = sign ∧ (readSign text).2 = rest := by
  cases signed with
  | plus | minus => exact ⟨rfl, rfl⟩
  | unsigned no_plus no_minus =>
    rw [readSign_of_unsigned no_plus no_minus]
    exact ⟨rfl, rfl⟩

theorem readParts_zero : readParts ['0'] = none := by
  rw [readParts]
  rfl

/-- What is read is spelled in the text, and what is spelled is read. -/
theorem spelled_iff : Spelled text sign parts ↔
    ∃ written, readWritten text = some written ∧ signOf written.negative = sign ∧
      written.parts = parts := by
  constructor
  · rintro (signed | ⟨signed, filled, cut⟩)
    · refine ⟨⟨false, []⟩, ?_, rfl, rfl⟩
      rw [readWritten, signed.readSign_eq.2]
      rfl
    · obtain ⟨rfl, rfl⟩ := signed.readSign_eq
      have read := readParts_eq_some_iff.mpr ⟨_, cut⟩
      refine ⟨⟨(readSign text).1, parts⟩, ?_, rfl, rfl⟩
      rw [readWritten]
      split
      · rename_i bare
        rw [bare, readParts_zero] at read
        cases read
      · split
        · rename_i empty
          rw [List.isEmpty_iff.mp empty] at cut
          exact absurd (cut.unique cut_nil).2 filled
        · simp only [read, Option.map_some]
  · rintro ⟨written, read, rfl, rfl⟩
    have signed := signed_readSign text
    rw [readWritten] at read
    split at read
    · rename_i bare
      cases read
      exact .zero (bare ▸ signed)
    · split at read
      · cases read
      · rename_i filled
        obtain ⟨parts, found, rfl⟩ := Option.map_eq_some_iff.mp read
        obtain ⟨pieces, cut⟩ := readParts_eq_some_iff.mp found
        refine .parts signed ?_ cut
        rintro rfl
        obtain ⟨joined, written⟩ := cut
        cases written
        exact filled (List.isEmpty_iff.mpr joined.symm)

end Signs

/-! ## Seconds -/

/-- A unit in seconds, exactly. -/
def TimeUnit.exact : TimeUnit → Rat
  | .hour => 3600
  | .minute => 60
  | .second => 1
  | .millisecond => 1 / 10 ^ 3
  | .microsecond => 1 / 10 ^ 6
  | .nanosecond => 1 / 10 ^ 9

/-- A part in seconds, exactly: its number times its unit. -/
def Part.exact (part : Part) : Rat :=
  Text.decimalNumber (part.whole ++ part.fraction) / 10 ^ part.fraction.length * part.unit.exact

theorem TimeUnit.seconds_eq_exact (unit : TimeUnit) : (unit.seconds : Rat) = unit.exact := by
  cases unit <;> norm_num [seconds, exact, TimeScale.ofDecimal, Decimal.power]

theorem Part.seconds_eq_exact (part : Part) : (part.seconds : Rat) = part.exact := by
  have number (digits places : Nat) :
      (TimeScale.ofDecimal digits places : Rat) = digits / 10 ^ places := by
    show mkRat digits (10 ^ places) = _
    rw [Rat.mkRat_eq_div, Int.cast_natCast, Nat.cast_pow]
    rfl
  unfold Part.seconds Part.exact
  rw [number, TimeUnit.seconds_eq_exact]

/-- On the exact scale the sum from left to right is the sum. -/
theorem total_eq_sum (parts : List Part) : (total parts : Rat) = (parts.map Part.exact).sum := by
  have onward (sum : Rat) : parts.foldl (fun sum part => sum + part.seconds) sum =
      sum + (parts.map Part.exact).sum := by
    induction parts generalizing sum with
    | nil => exact (add_zero sum).symm
    | cons part parts ih =>
      rw [List.foldl_cons, ih, List.map_cons, List.sum_cons, ← part.seconds_eq_exact]
      exact add_assoc ..
  exact (onward 0).trans (zero_add _)

/-! ## Texts -/

/-- A text without blanks around it and without a sign, and not a bare `0`. -/
structure IsPlain (text : List Char) : Prop where
  trimmed : Text.Trimmed text
  no_plus : text.head? ≠ some '+'
  no_minus : text.head? ≠ some '-'
  not_zero : text ≠ ['0']

section Texts

variable {T : Type} [TimeScale T] {text : String}

theorem read_eq_ok_iff {span : T} : read text = .ok span ↔
    ∃ sign parts, Spelled (Text.strip text.toList) sign parts ∧
      span = TimeScale.ofInt sign * total parts := by
  unfold read
  constructor
  · intro ok
    cases found : readWritten (Text.strip text.toList) with
    | none =>
      rw [found] at ok
      cases ok
    | some written =>
      rw [found] at ok
      cases ok
      exact ⟨_, _, spelled_iff.mpr ⟨written, found, rfl, rfl⟩, rfl⟩
  · rintro ⟨sign, parts, spelled, rfl⟩
    obtain ⟨written, found, rfl, rfl⟩ := spelled_iff.mp spelled
    rw [found]
    rfl

theorem read_eq_error (unspelled : ∀ sign parts, ¬ Spelled (Text.strip text.toList) sign parts) :
    (read text : Except Malformed T) = .error (.duration text) := by
  unfold read
  cases found : readWritten (Text.strip text.toList) with
  | none => rfl
  | some written => exact absurd (spelled_iff.mpr ⟨written, found, rfl, rfl⟩) (unspelled _ _)

/-- A plain text that is read consists of parts. -/
theorem IsPlain.cut {span : Rat} (plain : IsPlain text.toList) (ok : read text = .ok span) :
    ∃ pieces parts, Cut text.toList pieces parts ∧ parts ≠ [] ∧
      span = (parts.map Part.exact).sum := by
  obtain ⟨sign, parts, spelled, rfl⟩ := read_eq_ok_iff.mp ok
  rw [Text.strip_eq_self plain.trimmed] at spelled
  have bare := readSign_of_unsigned plain.no_plus plain.no_minus
  obtain signed | ⟨signed, filled, cut⟩ := spelled
  · obtain ⟨-, rest⟩ := signed.readSign_eq
    rw [bare] at rest
    exact absurd rest plain.not_zero
  · obtain ⟨rfl, rfl⟩ := signed.readSign_eq
    rw [bare] at cut ⊢
    exact ⟨_, parts, cut, filled, by rw [total_eq_sum]; exact one_mul _⟩

/-- Two plain texts that are read may be written together. -/
theorem read_append {first second : String} {one two : Rat} (plain : IsPlain first.toList)
    (also : IsPlain second.toList) (ok : read first = .ok one) (ok_second : read second = .ok two) :
    read (first ++ second) = .ok (one + two) := by
  obtain ⟨pieces, parts, cut, filled, rfl⟩ := plain.cut ok
  obtain ⟨others, rest, further, filled_rest, rfl⟩ := also.cut ok_second
  have begins : first.toList ≠ [] := by
    intro empty
    rw [empty] at cut
    exact filled (cut.unique cut_nil).2
  have ends : second.toList ≠ [] := by
    intro empty
    rw [empty] at further
    exact filled_rest (further.unique cut_nil).2
  have first_char : (first.toList ++ second.toList).head? = first.toList.head? :=
    List.head?_append_of_ne_nil _ begins
  have trimmed : Text.Trimmed (first.toList ++ second.toList) := by
    refine ⟨?_, ?_⟩
    · rw [first_char]
      exact plain.trimmed.1
    · rw [List.getLast?_append_of_ne_nil _ ends]
      exact also.trimmed.2
  refine read_eq_ok_iff.mpr ⟨1, parts ++ rest, ?_, ?_⟩
  · rw [String.toList_append, Text.strip_eq_self trimmed]
    refine .parts (.unsigned ?_ ?_) (List.append_ne_nil_of_left_ne_nil filled _) (cut.append further)
    · rw [first_char]
      exact plain.no_plus
    · rw [first_char]
      exact plain.no_minus
  · rw [total_eq_sum, List.map_append, List.sum_append]
    exact (one_mul _).symm

end Texts

/-- What a text spells is read as the signed sum of its parts, from left to right, on any scale, and a
text that spells nothing is refused. There is one way only to cut a text into parts, in which an `m`
before an `s` belongs to the unit of that part. On the exact scale each part is its number times its
unit, and texts that are written together are read as the sum of what they are read as. -/
theorem read_spelled (T : Type) [TimeScale T] :
    (∀ (text : String) (span : T), read text = .ok span ↔
      ∃ sign parts, Spelled (Text.strip text.toList) sign parts ∧
        span = TimeScale.ofInt sign *
          parts.foldl (fun sum part => sum + part.seconds) TimeScale.zero) ∧
    (∀ text : String, (∀ sign parts, ¬ Spelled (Text.strip text.toList) sign parts) →
      (read text : Except Malformed T) = .error (.duration text)) ∧
    (∀ {text : List Char} {pieces others : List (List Char)} {parts same : List Part},
      Cut text pieces parts → Cut text others same → pieces = others ∧ parts = same) ∧
    (∀ {text before after : List Char} {pieces : List (List Char)} {parts : List Part},
      Cut text pieces parts → text = before ++ 'm' :: 's' :: after →
        ∃ front number whole fraction back, pieces = front ++ (number ++ ['m', 's']) :: back ∧
          before = front.flatten ++ number ∧ after = back.flatten ∧
            NumberWritten number whole fraction) ∧
    (∀ part : Part, (part.seconds : Rat) = part.exact) ∧
    ∀ {first second : String} {one two : Rat}, IsPlain first.toList → IsPlain second.toList →
      read first = .ok one → read second = .ok two → read (first ++ second) = .ok (one + two) :=
  ⟨fun _ _ => read_eq_ok_iff, fun _ => read_eq_error, Cut.unique, Cut.millisecond,
    Part.seconds_eq_exact, read_append⟩

/-- A text is trimmed if its first and its last character are visible. -/
theorem trimmed_of_ends {text : List Char} {front back : Char} (first : text.head? = some front)
    (last : text.getLast? = some back) (visible : Text.isBlank front = false)
    (also : Text.isBlank back = false) : Text.Trimmed text := by
  constructor
  · intro c found
    cases first.symm.trans found
    exact visible
  · intro c found
    cases last.symm.trans found
    exact also

/-- A duration in hours and minutes and one in milliseconds are read apart and together, and the second
cannot be cut into minutes and seconds. -/
theorem read_spelled_together :
    IsPlain "1h30m".toList ∧ IsPlain ".5ms".toList ∧
      (read "1h30m" : Except Malformed Rat) = .ok 5400 ∧
      (read ".5ms" : Except Malformed Rat) = .ok (1 / 2000) ∧
      (read ("1h30m" ++ ".5ms") : Except Malformed Rat) = .ok (5400 + 1 / 2000) ∧
      Cut ".5ms".toList [".5ms".toList] [⟨[], ['5'], .millisecond⟩] ∧
      ∀ {pieces : List (List Char)} {parts : List Part}, Cut ".5ms".toList pieces parts →
        pieces = [".5ms".toList] := by
  have plain : IsPlain "1h30m".toList :=
    ⟨trimmed_of_ends rfl rfl rfl rfl, by decide, by decide, by decide⟩
  have also : IsPlain ".5ms".toList :=
    ⟨trimmed_of_ends rfl rfl rfl rfl, by decide, by decide, by decide⟩
  have ok : (read "1h30m" : Except Malformed Rat) = .ok 5400 := by decide +kernel
  have ok_second : (read ".5ms" : Except Malformed Rat) = .ok (1 / 2000) := by decide +kernel
  have digit : IsDigits ['5'] := by
    rintro c (_ | ⟨_, ⟨⟩⟩)
    decide
  have cut : Cut ".5ms".toList [".5ms".toList] [⟨[], ['5'], .millisecond⟩] :=
    ⟨rfl, .cons (.intro (.fraction (List.cons_ne_nil _ _) digit) .millisecond) .nil⟩
  obtain ⟨-, -, unique, -, -, together⟩ := read_spelled Rat
  exact ⟨plain, also, ok, ok_second, together plain also ok ok_second, cut,
    fun other => (unique other cut).1⟩

end Evacuation.Duration
