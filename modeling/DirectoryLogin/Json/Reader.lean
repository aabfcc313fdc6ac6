import DirectoryLogin.Json.Basic

/-!
# Reading JSON

`read` takes a text as far as it is JSON. What it cannot read it leaves as `torn`, and it reads
nothing after that. `parse?` accepts a text only as a whole.

* White space is the space, the tab, the line feed and the carriage return.
* A text holds no raw control character. With an escaped half of a surrogate pair that lacks the
  other half after it, it is unreadable.
* A number that exceeds every finite floating-point number of 64 bits is unreadable. What counts is
  the number as it is computed, rounded at each step.
-/

namespace DirectoryLogin.Json

/-- White space between values. -/
def isSpace (c : Char) : Bool := c == ' ' || c == '\t' || c == '\n' || c == '\r'

/-! ## Texts -/

/-- The value of a hexadecimal digit. -/
def hexValue? (c : Char) : Option Nat :=
  if '0' ≤ c && c ≤ '9' then some (c.toNat - 0x30)
  else if 'a' ≤ c && c ≤ 'f' then some (c.toNat - 0x57)
  else if 'A' ≤ c && c ≤ 'F' then some (c.toNat - 0x37)
  else none

/-- The number that four hexadecimal digits at the front denote. -/
def fourHex? : List Char → Option Nat
  | a :: b :: c :: d :: _ => do
    let a ← hexValue? a
    let b ← hexValue? b
    let c ← hexValue? c
    let d ← hexValue? d
    some (((a * 16 + b) * 16 + c) * 16 + d)
  | _ => none

/-- The character of an escape after its `u`, if it stands for one, with the number of characters
that the escape takes. -/
def unicodeEscape? (cs : List Char) : Option (Option Char × Nat) := do
  let n ← fourHex? cs
  if 0xD800 ≤ n && n < 0xDC00 then
    match cs.drop 4 with
    | '\\' :: 'u' :: more =>
      match fourHex? more with
      | some low =>
        if 0xDC00 ≤ low && low < 0xE000 then
          some (some (Char.ofNat (0x10000 + (n - 0xD800) * 0x400 + (low - 0xDC00))), 10)
        else some (none, 4)
      | none => some (none, 4)
    | _ => some (none, 4)
  else if 0xDC00 ≤ n && n < 0xE000 then some (none, 4)
  else some (some (Char.ofNat n), 4)

/-- The character of an escape after its backslash, if it stands for one, with the number of
characters that the escape takes. -/
def unescape? : List Char → Option (Option Char × Nat)
  | 'b' :: _ => some (some '\x08', 1)
  | 'f' :: _ => some (some '\x0c', 1)
  | 'n' :: _ => some (some '\n', 1)
  | 'r' :: _ => some (some '\r', 1)
  | 't' :: _ => some (some '\t', 1)
  | 'u' :: rest => (unicodeEscape? rest).map fun (c, n) => (c, n + 1)
  | c :: _ => if c == '\x22' || c == '\\' || c == '/' then some (some c, 1) else none
  | [] => none

/-- The contents of a text after its opening quote, if it is readable, and what follows its closing
quote. The first `skip` characters belong to an escape that has been read. -/
def readText (skip : Nat) : List Char → Option (Option (List Char) × List Char)
  | [] => none
  | c :: rest =>
    match skip with
    | k + 1 => readText k rest
    | 0 =>
      if c == '\x22' then some (some [], rest)
      else if c == '\\' then
        match unescape? rest with
        | some (x, n) =>
          (readText n rest).map fun (body, after) => (do some ((← x) :: (← body)), after)
        | none => none
      else if c.toNat < 0x20 then none
      else (readText 0 rest).map fun (body, after) => (body.map (c :: ·), after)

/-! ## Numbers -/

/-- The number that a list of decimal digits denotes. -/
def digitsValue (cs : List Char) : Nat := cs.foldl (fun n c => n * 10 + (c.toNat - 0x30)) 0

/-- The characters of a number: its sign, whole digits, fraction digits and exponent. -/
structure Numeral where
  negative : Bool
  whole : List Char
  fraction : List Char
  exponent : Option (Bool × List Char)

/-- Puts the digits at the end of a number as long as it stays below `2 ^ 64`, and tells how many
digits are left over. -/
def takeDigits (n : Nat) : List Char → Nat × Nat
  | [] => (n, 0)
  | c :: rest =>
    let longer := n * 10 + (c.toNat - 0x30)
    if longer < 1 <<< 64 then takeDigits longer rest else (n, rest.length + 1)

/-- The number without its exponent, as a significand and a power of ten. Of the whole digits those
that do not fit leave their places, of the fraction digits they leave nothing. -/
def Numeral.scaled (n : Numeral) : Nat × Int :=
  let (whole, places) := takeDigits 0 n.whole
  let (significand, dropped) := takeDigits whole n.fraction
  (significand, places - (n.fraction.length - dropped))

/-- The nearest number with 53 binary digits in front of zeros; of two, the one whose digits are
even. -/
def nearestBinary (n : Nat) : Nat :=
  let unit := 1 <<< (n.log2 + 1 - 53)
  let digits := n / unit
  let rest := n % unit
  if unit < 2 * rest || (2 * rest == unit && digits % 2 == 1) then (digits + 1) * unit
  else digits * unit

/-- The least number that is rounded beyond every finite 64-bit floating-point number. -/
def binaryOverflow : Nat := (1 <<< 54 - 1) <<< 970

/-- The product `significand · 10 ^ exponent` exceeds every finite 64-bit floating-point number,
where both factors are rounded before it. -/
def overflows (significand : Nat) (exponent : Int) : Bool :=
  if 308 < exponent then significand != 0
  else binaryOverflow ≤ nearestBinary significand * nearestBinary (Nat.pow 10 exponent.toNat)

/-- The number exceeds every finite 64-bit floating-point number. With an exponent of `2 ^ 31` or
more nothing is computed. -/
def Numeral.tooLarge (n : Numeral) : Bool :=
  let (significand, places) := n.scaled
  match n.exponent with
  | none => overflows significand places
  | some (negative, digits) =>
    let exponent := digitsValue digits
    if 1 <<< 31 ≤ exponent then significand != 0 && !negative
    else overflows significand (if negative then places - exponent else places + exponent)

/-- The value of a number. -/
def Numeral.value (n : Numeral) (text : List Char) : Json :=
  let magnitude := digitsValue n.whole
  if n.fraction.isEmpty && n.exponent.isNone && !(n.negative && magnitude == 0) &&
      magnitude < (if n.negative then 1 <<< 63 + 1 else 1 <<< 64) then
    integer (if n.negative then -magnitude else magnitude)
  else if n.tooLarge then unreadable
  else decimal (String.ofList text)

/-- The decimal digits at the front, and what follows them. -/
def spanDigits (cs : List Char) : List Char × List Char := cs.span Char.isDigit

/-- The exponent of a number: whether it is negative, and its digits. `none` for a fault. -/
def readExponent? (cs : List Char) : Option (Option (Bool × List Char) × List Char) :=
  match cs with
  | c :: rest =>
    if c == 'e' || c == 'E' then
      let (negative, rest) := match rest with
        | '-' :: more => (true, more)
        | '+' :: more => (false, more)
        | more => (false, more)
      let (digits, after) := spanDigits rest
      if digits.isEmpty then none else some (some (negative, digits), after)
    else some (none, cs)
  | [] => some (none, [])

/-- The digits after the point. `none` for a point without digits. -/
def readFraction? (cs : List Char) : Option (List Char × List Char) :=
  match cs with
  | '.' :: rest =>
    let (digits, after) := spanDigits rest
    if digits.isEmpty then none else some (digits, after)
  | _ => some ([], cs)

/-- A number at the front. A leading zero stands alone. -/
def readNumber? (cs : List Char) : Option (Numeral × List Char) := do
  let (negative, rest) := match cs with
    | '-' :: rest => (true, rest)
    | _ => (false, cs)
  let (whole, rest) := spanDigits rest
  if whole.isEmpty || (whole.head? == some '0' && whole.length > 1) then none
  else do
    let (fraction, rest) ← readFraction? rest
    let (exponent, rest) ← readExponent? rest
    some (⟨negative, whole, fraction, exponent⟩, rest)

/-! ## Values -/

/-- The word at the front stands for `v`. -/
def readWord (word : List Char) (v : Json) (cs : List Char) : Json × List Char :=
  match word.isPrefixOf? cs with
  | some rest => (v, rest)
  | none => (torn, [])

mutual

/-- The value at the front, white space before it allowed, and what follows it. Of two steps one
reads a character, so a count of twice the length of the text and more does not run out. -/
def readValue : Nat → List Char → Json × List Char
  | 0, _ => (torn, [])
  | n + 1, cs =>
    match cs.dropWhile isSpace with
    | [] => (torn, [])
    | c :: rest =>
      if c == '[' then
        match rest.dropWhile isSpace with
        | ']' :: after => (array [], after)
        | _ =>
          let (elements, after) := readElements n rest
          (array elements, after)
      else if c == '\x7b' then
        match rest.dropWhile isSpace with
        | '\x7d' :: after => (object [], after)
        | _ =>
          let (members, after) := readMembers n rest
          (object members, after)
      else if c == '\x22' then
        match readText 0 rest with
        | some (some body, after) => (string (String.ofList body), after)
        | some (none, after) => (unreadable, after)
        | none => (torn, [])
      else if c == 'n' then readWord "null".toList null (c :: rest)
      else if c == 't' then readWord "true".toList (bool true) (c :: rest)
      else if c == 'f' then readWord "false".toList (bool false) (c :: rest)
      else match readNumber? (c :: rest) with
        | some (number, after) => (number.value ((c :: rest).take (rest.length + 1 - after.length)), after)
        | none => (torn, [])

/-- One or more elements up to the closing bracket. -/
def readElements : Nat → List Char → List Json × List Char
  | 0, _ => ([torn], [])
  | n + 1, cs =>
    let (v, rest) := readValue n cs
    match rest.dropWhile isSpace with
    | ',' :: more =>
      let (elements, after) := readElements n more
      (v :: elements, after)
    | ']' :: after => ([v], after)
    | _ => ([v, torn], [])

/-- One or more members up to the closing brace. -/
def readMembers : Nat → List Char → List (String × Json) × List Char
  | 0, _ => ([("", torn)], [])
  | n + 1, cs =>
    match cs.dropWhile isSpace with
    | '\x22' :: rest =>
      match readText 0 rest with
      | none => ([("", torn)], [])
      | some (none, _) => ([("", torn)], [])
      | some (some body, rest) =>
        let name := String.ofList body
        match rest.dropWhile isSpace with
        | ':' :: rest =>
          let (v, rest) := readValue n rest
          match rest.dropWhile isSpace with
          | ',' :: more =>
            let (members, after) := readMembers n more
            ((name, v) :: members, after)
          | '\x7d' :: after => ([(name, v)], after)
          | _ => ([(name, v), ("", torn)], [])
        | _ => ([(name, torn)], [])
    | _ => ([("", torn)], [])

end

/-- The value that a text holds as far as it can be read, and whether anything but white space
follows it. -/
def read (s : String) : Json × Bool :=
  let (v, rest) := readValue (2 * s.toList.length + 2) s.toList
  (v, !rest.all isSpace)

/-- The value of a text that is JSON as a whole. -/
def parse? (s : String) : Option Json :=
  let (v, more) := read s
  if v.isFaulty || more then none else some v

end DirectoryLogin.Json
