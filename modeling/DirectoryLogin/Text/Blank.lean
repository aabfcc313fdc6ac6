/-!
# White space and trimming

White space is Unicode's `White_Space` property, so no-break spaces and the line separators count
and the zero-width space does not. Trimming drops white space at both ends and nothing else.
-/

namespace DirectoryLogin.Text

/-- Characters with Unicode's `White_Space` property. -/
def isBlank (c : Char) : Bool :=
  let n := c.toNat
  (0x9 ≤ n && n ≤ 0xD) || n == 0x20 || n == 0x85 || n == 0xA0 || n == 0x1680 ||
    (0x2000 ≤ n && n ≤ 0x200A) || n == 0x2028 || n == 0x2029 || n == 0x202F || n == 0x205F ||
    n == 0x3000

/-- The characters from the first that fails `p` to the last that fails it. -/
def stripBoth (p : Char → Bool) (cs : List Char) : List Char :=
  ((cs.dropWhile p).reverse.dropWhile p).reverse

/-- The text without white space at its ends. -/
def trim (s : String) : String := String.ofList (stripBoth isBlank s.toList)

/-- The text holds white space only, or nothing. -/
def isBlankText (s : String) : Bool := s.toList.all isBlank

/-- The trimmed text, where it is not empty. -/
def nonBlank? (s : String) : Option String :=
  let t := trim s
  if t.isEmpty then none else some t

end DirectoryLogin.Text
