/-!
# Splitting at a separator

`splitFirst` cuts a text at the first occurrence of a character and `splitLast` at the last; both
drop that occurrence and refuse a text without one. `splitAll` cuts at every occurrence. The
parts put together again around the separator give the text back (`eq_of_splitFirst`,
`eq_of_splitLast`), and the part that was searched holds no separator.
-/
namespace Evacuation.Text

/-- The parts before and after the first occurrence of a character. -/
def splitFirst (separator : Char) : List Char → Option (List Char × List Char)
  | [] => none
  | c :: rest =>
    if c = separator then some ([], rest)
    else (splitFirst separator rest).map fun parts => (c :: parts.1, parts.2)

/-- The parts before and after the last occurrence of a character. -/
def splitLast (separator : Char) (text : List Char) : Option (List Char × List Char) :=
  (splitFirst separator text.reverse).map fun parts => (parts.2.reverse, parts.1.reverse)

/-- The parts between all occurrences of a character; one part if there is none. -/
def splitAll (separator : Char) : List Char → List (List Char)
  | [] => [[]]
  | c :: rest =>
    match splitAll separator rest with
    | [] => [[c]]
    | part :: parts => if c = separator then [] :: part :: parts else (c :: part) :: parts

/-- The rest of a text after a beginning it has. -/
def dropStart? : List Char → List Char → Option (List Char)
  | [], text => some text
  | _ :: _, [] => none
  | b :: beginning, c :: text => if b = c then dropStart? beginning text else none

/-- The parts around the first separator, put together again, give the text back, and the first
part holds no separator. -/
theorem eq_of_splitFirst {separator : Char} {text front back : List Char}
    (found : splitFirst separator text = some (front, back)) :
    text = front ++ separator :: back ∧ separator ∉ front := by
  induction text generalizing front with
  | nil => simp [splitFirst] at found
  | cons c rest ih =>
    by_cases here : c = separator
    · simp only [splitFirst, here, if_true, Option.some.injEq, Prod.mk.injEq] at found
      simp [← found.1, found.2, here]
    · simp only [splitFirst, here, if_false] at found
      obtain ⟨⟨before, after⟩, inner, eq⟩ := Option.map_eq_some_iff.1 found
      simp only [Prod.mk.injEq] at eq
      obtain ⟨rfl, rfl⟩ := eq
      obtain ⟨rfl, absent⟩ := ih inner
      simp [absent, Ne.symm here]

/-- A first part without separator is found again. -/
theorem splitFirst_append {separator : Char} {front : List Char} (absent : separator ∉ front)
    (back : List Char) : splitFirst separator (front ++ separator :: back) = some (front, back) := by
  induction front with
  | nil => simp [splitFirst]
  | cons c front ih =>
    simp only [List.mem_cons, not_or] at absent
    simp [splitFirst, Ne.symm absent.1, ih absent.2]

/-- Only a text without the separator is refused. -/
theorem splitFirst_eq_none_iff {separator : Char} {text : List Char} :
    splitFirst separator text = none ↔ separator ∉ text := by
  induction text with
  | nil => simp [splitFirst]
  | cons c rest ih =>
    by_cases here : c = separator
    · simp [splitFirst, here]
    · simp [splitFirst, here, ih, Ne.symm here]

/-- The parts around the last separator, put together again, give the text back, and the second
part holds no separator. -/
theorem eq_of_splitLast {separator : Char} {text front back : List Char}
    (found : splitLast separator text = some (front, back)) :
    text = front ++ separator :: back ∧ separator ∉ back := by
  obtain ⟨⟨first, second⟩, inner, eq⟩ := Option.map_eq_some_iff.1 found
  simp only [Prod.mk.injEq] at eq
  obtain ⟨rfl, rfl⟩ := eq
  obtain ⟨whole, absent⟩ := eq_of_splitFirst inner
  have flipped := congrArg List.reverse whole
  simp only [List.reverse_reverse, List.reverse_append, List.reverse_cons] at flipped
  exact ⟨by simpa using flipped, by simpa using absent⟩

/-- A second part without separator is found again. -/
theorem splitLast_append {separator : Char} {back : List Char} (absent : separator ∉ back)
    (front : List Char) : splitLast separator (front ++ separator :: back) = some (front, back) := by
  have flipped : separator ∉ back.reverse := by simpa using absent
  have found := splitFirst_append flipped front.reverse
  simp [splitLast, found]

end Evacuation.Text
