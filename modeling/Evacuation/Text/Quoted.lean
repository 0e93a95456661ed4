import Evacuation.Text.Printable
/-!
# Quoted text

A text shown inside a message is put between quotes so that its ends and its invisible characters
can be seen. Single quotes are used unless the text holds a single quote and no double quote.
Inside, the quote in use and the backslash are escaped, tab, line feed and carriage return have
short escapes, and any other character that is not printable is written by its code point in
hexadecimal, in two, four or eight digits as needed.
-/
namespace Evacuation.Text

/-- The lower-case hexadecimal digits of a number, padded with zeros to a width. -/
def hexDigits (width number : Nat) : List Char :=
  let digits := Nat.toDigits 16 number
  List.replicate (width - digits.length) '0' ++ digits

/-- The quote put around a text. -/
def quoteFor (text : List Char) : Char :=
  if text.contains '\'' && !text.contains '"' then '"' else '\''

/-- One character of a quoted text. -/
def quotedChar (quote : Char) (c : Char) : List Char :=
  if c == quote || c == '\\' then ['\\', c]
  else if c == '\t' then ['\\', 't']
  else if c == '\n' then ['\\', 'n']
  else if c == '\r' then ['\\', 'r']
  else if isPrintable c then [c]
  else if c.toNat < 0x100 then '\\' :: 'x' :: hexDigits 2 c.toNat
  else if c.toNat < 0x10000 then '\\' :: 'u' :: hexDigits 4 c.toNat
  else '\\' :: 'U' :: hexDigits 8 c.toNat

/-- A text between quotes, with escapes. -/
def quoted (text : String) : String :=
  let quote := quoteFor text.toList
  String.ofList (quote :: text.toList.flatMap (quotedChar quote) ++ [quote])

/-- A text of plain letters is quoted as it stands. -/
example : quoted "abc" = "'abc'" := by decide +kernel

/-- A single quote inside moves the text into double quotes. -/
example : quoted "it's" = "\"it's\"" := by decide +kernel

end Evacuation.Text
