import Evacuation.Text.Quoted
/-!
# Repertoires of characters

Some texts can be sent only if all their characters belong to a repertoire, which is the beginning
of all characters. The first run of characters outside is reported.
-/
namespace Evacuation.Text

/-- The characters with numbers below a bound. -/
structure Repertoire where
  name : String
  size : Nat
  deriving DecidableEq, Repr

/-- A run of characters outside a repertoire: the place of its first character, that character, and
how many they are. -/
structure Outside where
  repertoire : Repertoire
  place : Nat
  first : Char
  count : Nat
  deriving DecidableEq, Repr

/-- A character written by its number. -/
def numberEscape (c : Char) : String :=
  String.ofList (
    if c.toNat < 0x100 then '\\' :: 'x' :: hexDigits 2 c.toNat
    else if c.toNat < 0x10000 then '\\' :: 'u' :: hexDigits 4 c.toNat
    else '\\' :: 'U' :: hexDigits 8 c.toNat)

/-- The text that reports characters outside a repertoire. -/
def Outside.message (found : Outside) : String :=
  let which :=
    if found.count = 1 then s!"character '{numberEscape found.first}' in position {found.place}"
    else s!"characters in position {found.place}-{found.place + found.count - 1}"
  s!"'{found.repertoire.name}' codec can't encode {which}: " ++
    s!"ordinal not in range({found.repertoire.size})"

namespace Repertoire

/-- The plain characters. -/
def plain : Repertoire := ⟨"ascii", 128⟩

/-- The characters of one byte. -/
def latin : Repertoire := ⟨"latin-1", 256⟩

/-- A character belongs to a repertoire. -/
def contains (repertoire : Repertoire) (c : Char) : Bool := c.toNat < repertoire.size

/-- The first run of characters of a text outside a repertoire. -/
def outside? (repertoire : Repertoire) (text : List Char) : Option Outside :=
  match text.dropWhile repertoire.contains with
  | [] => none
  | first :: rest =>
    some ⟨repertoire, (text.takeWhile repertoire.contains).length, first,
      (rest.takeWhile (!repertoire.contains ·)).length + 1⟩

end Repertoire

end Evacuation.Text
