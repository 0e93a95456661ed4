/-!
# Blank characters

The Unicode white space that may surround a value: the five layout controls, the four
information separators, the next-line control, and every character of category `Zs`, `Zl` or
`Zp`. Zero-width characters and the byte order mark are not blank. Stripping removes blanks at
both ends and nothing else: what is left neither starts nor ends with one (`strip_idem`), and a
text whose ends are not blank is left alone (`strip_eq_self`).
-/
namespace Evacuation.Text

/-- White space by code point. -/
def isBlank (c : Char) : Bool :=
  let n := c.toNat
  (0x09 ≤ n && n ≤ 0x0D) || (0x1C ≤ n && n ≤ 0x20) || n == 0x85 || n == 0xA0 || n == 0x1680 ||
    (0x2000 ≤ n && n ≤ 0x200A) || n == 0x2028 || n == 0x2029 || n == 0x202F || n == 0x205F ||
    n == 0x3000

/-- The text without the blanks it starts with. -/
def stripLeft (text : List Char) : List Char := text.dropWhile isBlank

/-- The text without the blanks it ends with. -/
def stripRight (text : List Char) : List Char := (text.reverse.dropWhile isBlank).reverse

/-- The text without the blanks at its two ends. -/
def strip (text : List Char) : List Char := stripRight (stripLeft text)

/-- A text neither end of which is blank. -/
def Trimmed (text : List Char) : Prop :=
  (∀ c ∈ text.head?, isBlank c = false) ∧ ∀ c ∈ text.getLast?, isBlank c = false

theorem head?_dropWhile_isBlank (text : List Char) :
    ∀ c ∈ (text.dropWhile isBlank).head?, isBlank c = false := by
  intro c found
  cases kept : text.dropWhile isBlank with
  | nil => simp [kept] at found
  | cons d rest =>
    have first := List.head?_dropWhile_not isBlank text
    simp only [kept, List.head?_cons] at first found
    obtain rfl : d = c := by simpa using found
    simpa using first

theorem getLast?_stripRight (text : List Char) :
    ∀ c ∈ (stripRight text).getLast?, isBlank c = false := by
  intro c found
  simp only [stripRight, List.getLast?_reverse] at found
  exact head?_dropWhile_isBlank _ c found

theorem stripLeft_eq_self {text : List Char} (front : ∀ c ∈ text.head?, isBlank c = false) :
    stripLeft text = text := by
  cases text with
  | nil => rfl
  | cons c rest => simp [stripLeft, front c rfl]

theorem stripRight_eq_self {text : List Char} (back : ∀ c ∈ text.getLast?, isBlank c = false) :
    stripRight text = text := by
  have reversed : stripLeft text.reverse = text.reverse :=
    stripLeft_eq_self (by simpa [List.head?_reverse] using back)
  simp only [stripLeft] at reversed
  simp [stripRight, reversed]

/-- A text whose ends are not blank is left alone. -/
theorem strip_eq_self {text : List Char} (trimmed : Trimmed text) : strip text = text := by
  rw [strip, stripLeft_eq_self trimmed.1, stripRight_eq_self trimmed.2]

/-- Stripping at the right end keeps the first character, unless nothing is left. -/
theorem head?_stripRight (text : List Char) :
    ∀ c ∈ (stripRight text).head?, c ∈ text.head? := by
  intro c found
  have whole : stripRight text ++ (text.reverse.takeWhile isBlank).reverse = text := by
    rw [stripRight, ← List.reverse_append, List.takeWhile_append_dropWhile, List.reverse_reverse]
  cases kept : stripRight text with
  | nil => simp [kept] at found
  | cons d rest =>
    rw [kept] at whole found
    rw [← whole]
    simpa using found

/-- What stripping leaves has no blank at either end. -/
theorem trimmed_strip (text : List Char) : Trimmed (strip text) :=
  ⟨fun c found => head?_dropWhile_isBlank text c (head?_stripRight _ c found),
    getLast?_stripRight _⟩

/-- Stripping twice is stripping once. -/
@[simp] theorem strip_idem (text : List Char) : strip (strip text) = strip text :=
  strip_eq_self (trimmed_strip text)

/-- Stripping adds no character. -/
theorem mem_of_mem_strip {c : Char} {text : List Char} (found : c ∈ strip text) : c ∈ text := by
  simp only [strip, stripRight, stripLeft, List.mem_reverse] at found
  have kept := (List.dropWhile_sublist isBlank).subset found
  exact (List.dropWhile_sublist isBlank).subset (List.mem_reverse.1 kept)

end Evacuation.Text
