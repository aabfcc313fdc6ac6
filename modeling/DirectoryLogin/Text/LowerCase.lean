import DirectoryLogin.Text.CaseTable

/-!
# Lower case

Two foldings are in use. `lowerAscii` changes the letters A to Z only; directory attribute names,
account names and predicate operands are compared under it. `lower` is Unicode's full
lower-casing, in which the capital sigma becomes a final sigma at the end of a word and a plain
one elsewhere, so that the form of a letter can depend on its neighbours.
-/

namespace DirectoryLogin.Text

/-! ## ASCII -/

/-- The text with the letters A to Z in lower case. -/
def lowerAscii (s : String) : String := String.ofList (s.toList.map Char.toLower)

/-- Equality up to the case of the letters A to Z. -/
def sameAscii (a b : String) : Bool := lowerAscii a == lowerAscii b

/-! ## Unicode -/

/-- The code point that a run assigns to `n`, where `n` is one of its members. -/
def runLower? (n : Nat) (run : Nat × Nat × Nat × Int) : Option Nat :=
  let (first, last, step, shift) := run
  if first ≤ n && n ≤ last && (n - first) % step == 0 then some (Int.toNat (n + shift)) else none

/-- The lower-case form of a single character, its context aside. Only the dotted capital I has a
form of two characters. -/
def lowerChar (c : Char) : List Char :=
  if c.toNat < 0x80 then [c.toLower]
  else if c.toNat == 0x130 then ['i', '\u0307']
  else match lowerRuns.findSome? (runLower? c.toNat) with
    | some n => [Char.ofNat n]
    | none => [c]

/-- The nearest character that is not ignorable is a letter with case. -/
def meetsCasedLetter (cs : List Char) : Bool :=
  match cs.dropWhile isCaseIgnorable with
  | c :: _ => isCasedLetter c
  | [] => false

/-- A capital sigma ends a word when a letter comes before it and none after it, ignorable
characters aside. `before` is the text before it in reverse. -/
def sigmaIsFinal (before after : List Char) : Bool :=
  meetsCasedLetter before && !meetsCasedLetter after

/-- Lower-cases the remaining text, with the text before it in reverse. -/
def lowerFrom (before : List Char) : List Char → List Char
  | [] => []
  | c :: rest =>
    let image :=
      if c == 'Σ' then (if sigmaIsFinal before rest then ['ς'] else ['σ']) else lowerChar c
    image ++ lowerFrom (c :: before) rest

/-- Unicode's full lower-casing. -/
def lower (s : String) : String := String.ofList (lowerFrom [] s.toList)

end DirectoryLogin.Text
