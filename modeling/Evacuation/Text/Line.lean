/-!
# Lines of text files

The lines of a text file end with a line feed, with a carriage return or with both. Read as text, they
all end with a line feed. A mark of byte order may stand at the front of a file.
-/
namespace Evacuation.Text

/-- The mark of byte order that may stand at the front of a file. -/
def byteOrderMark : Char := '\uFEFF'

/-- A text without a mark of byte order at its front. -/
def withoutByteOrderMark : List Char → List Char
  | c :: rest => if c == byteOrderMark then rest else c :: rest
  | [] => []

/-- A text with line feeds at the ends of its lines. -/
def withLineFeeds : List Char → List Char
  | '\r' :: '\n' :: rest => '\n' :: withLineFeeds rest
  | '\r' :: rest => '\n' :: withLineFeeds rest
  | c :: rest => c :: withLineFeeds rest
  | [] => []

end Evacuation.Text
