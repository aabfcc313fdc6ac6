import DirectoryLogin.Text.Blank
import DirectoryLogin.Text.Search

/-!
# Lists kept as lines of text

A list edited in a text field has one item on each line. `items` reads it, dropping blank lines
and the white space around each item; `ofItems` writes it.
-/

namespace DirectoryLogin.Text

/-- The non-blank lines, each trimmed. The return that can stand before a line feed is white
space, so trimming removes it with the rest. -/
def items (s : String) : List String := (splitOn '\n' s).filterMap nonBlank?

/-- One item on each line. -/
def ofItems (xs : List String) : String := String.intercalate "\n" xs

end DirectoryLogin.Text
