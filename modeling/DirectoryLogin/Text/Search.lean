/-!
# Finding and cutting

Substring search, cuts at a separator and replacement, each as a recursion over the characters
with the `String` form beside it.
-/

namespace DirectoryLogin.Text

/-! ## Substrings -/

/-- `needle` occurs somewhere in the list. -/
def occursIn (needle : List Char) : List Char → Bool
  | [] => needle.isEmpty
  | c :: rest => needle.isPrefixOf (c :: rest) || occursIn needle rest

/-- `needle` is a substring of `s`. -/
def contains (s needle : String) : Bool := occursIn needle.toList s.toList

/-- `s` begins with `start`. -/
def startsWith (s start : String) : Bool := start.toList.isPrefixOf s.toList

/-- `s` ends with `ending`. -/
def endsWith (s ending : String) : Bool := ending.toList.isSuffixOf s.toList

/-- `s` without `start` at its beginning. -/
def dropStart? (s start : String) : Option String :=
  (start.toList.isPrefixOf? s.toList).map String.ofList

/-- `s` without `ending` at its end. -/
def dropEnd? (s ending : String) : Option String :=
  (ending.toList.isSuffixOf? s.toList).map String.ofList

/-- `s` without the characters `c` at its end. -/
def dropTrailing (c : Char) (s : String) : String :=
  String.ofList (s.toList.reverse.dropWhile (· == c)).reverse

/-! ## Cuts -/

/-- The lists before and after the first `sep`. -/
def cutFirst? (sep : Char) : List Char → Option (List Char × List Char)
  | [] => none
  | c :: rest =>
    if c == sep then some ([], rest)
    else (cutFirst? sep rest).map fun (a, b) => (c :: a, b)

/-- The lists before and after the last `sep`. -/
def cutLast? (sep : Char) : List Char → Option (List Char × List Char)
  | [] => none
  | c :: rest =>
    match cutLast? sep rest with
    | some (a, b) => some (c :: a, b)
    | none => if c == sep then some ([], rest) else none

/-- The texts before and after the first `sep`. -/
def splitFirst? (sep : Char) (s : String) : Option (String × String) :=
  (cutFirst? sep s.toList).map fun (a, b) => (String.ofList a, String.ofList b)

/-- The texts before and after the last `sep`. -/
def splitLast? (sep : Char) (s : String) : Option (String × String) :=
  (cutLast? sep s.toList).map fun (a, b) => (String.ofList a, String.ofList b)

/-- The pieces between the separators: one more than there are separators. -/
def pieces (sep : Char) : List Char → List (List Char)
  | [] => [[]]
  | c :: rest =>
    if c == sep then [] :: pieces sep rest
    else match pieces sep rest with
      | [] => [[c]]
      | p :: ps => (c :: p) :: ps

/-- The texts between the separators. -/
def splitOn (sep : Char) (s : String) : List String := (pieces sep s.toList).map String.ofList

/-! ## Replacement -/

/-- Replaces each occurrence of `old`, from left to right and without overlaps. `skip` counts the
characters that still belong to an occurrence just replaced. -/
def replaceFrom (old new : List Char) (skip : Nat) : List Char → List Char
  | [] => []
  | c :: rest =>
    match skip with
    | k + 1 => replaceFrom old new k rest
    | 0 =>
      if old.isPrefixOf (c :: rest) then new ++ replaceFrom old new (old.length - 1) rest
      else c :: replaceFrom old new 0 rest

/-- Replaces each occurrence of `old`, a text that is not empty, by `new`. -/
def replaceAll (s old new : String) : String :=
  String.ofList (replaceFrom old.toList new.toList 0 s.toList)

end DirectoryLogin.Text
