/-!
# Bytes

Lists of bytes, their words in both byte orders, and their hexadecimal and base 64 texts. The base
64 readers are strict: they take the standard alphabet, no bits left over at the end, and padding
exactly where the form asks for it.
-/

namespace DirectoryLogin.Digest

abbrev Bytes := List UInt8

/-- The UTF-8 bytes of a text. -/
def utf8 (s : String) : Bytes := s.toUTF8.data.toList

/-- The text that bytes encode in UTF-8. -/
def ofUtf8? (bytes : Bytes) : Option String := String.fromUTF8? ⟨bytes.toArray⟩

/-! ## Words -/

/-- The bytes of a word, the highest first. -/
def bigEndian32 (w : UInt32) : Bytes :=
  [(w >>> 24).toUInt8, (w >>> 16).toUInt8, (w >>> 8).toUInt8, w.toUInt8]

/-- The bytes of a word, the lowest first. -/
def littleEndian32 (w : UInt32) : Bytes := (bigEndian32 w).reverse

/-- The bytes of a word, the lowest first. -/
def littleEndian64 (w : UInt64) : Bytes :=
  littleEndian32 w.toUInt32 ++ littleEndian32 (w >>> 32).toUInt32

/-- The words of a list of bytes, the highest byte first. Bytes that fill no word are dropped. -/
def words32 : Bytes → List UInt32
  | a :: b :: c :: d :: rest =>
    ((a.toUInt32 <<< 24) ||| (b.toUInt32 <<< 16) ||| (c.toUInt32 <<< 8) ||| d.toUInt32) :: words32 rest
  | _ => []

/-- The words of a list of bytes, the lowest byte first. Bytes that fill no word are dropped. -/
def words64 : Bytes → List UInt64
  | a :: b :: c :: d :: e :: f :: g :: h :: rest =>
    (a.toUInt64 ||| (b.toUInt64 <<< 8) ||| (c.toUInt64 <<< 16) ||| (d.toUInt64 <<< 24) |||
      (e.toUInt64 <<< 32) ||| (f.toUInt64 <<< 40) ||| (g.toUInt64 <<< 48) ||| (h.toUInt64 <<< 56)) ::
      words64 rest
  | _ => []

/-! ## Hexadecimal -/

/-- The small hexadecimal digit of a number below 16. -/
def hexDigit (n : Nat) : Char := if n < 10 then Char.ofNat (0x30 + n) else Char.ofNat (0x57 + n)

/-- The value of a hexadecimal digit of either case. -/
def hexValue? (c : Char) : Option Nat :=
  if '0' ≤ c && c ≤ '9' then some (c.toNat - 0x30)
  else if 'a' ≤ c && c ≤ 'f' then some (c.toNat - 0x57)
  else if 'A' ≤ c && c ≤ 'F' then some (c.toNat - 0x37)
  else none

/-- Two small digits for each byte. -/
def hexChars (bytes : Bytes) : List Char :=
  bytes.flatMap fun b => [hexDigit (b.toNat / 16), hexDigit (b.toNat % 16)]

/-- The hexadecimal text of bytes. -/
def hex (bytes : Bytes) : String := String.ofList (hexChars bytes)

/-- The bytes of hexadecimal digits, two for each. -/
def ofHexChars? : List Char → Option Bytes
  | [] => some []
  | [_] => none
  | a :: b :: rest => do
    let high ← hexValue? a
    let low ← hexValue? b
    let more ← ofHexChars? rest
    some (UInt8.ofNat (high * 16 + low) :: more)

/-- The bytes of a hexadecimal text. -/
def ofHex? (s : String) : Option Bytes := ofHexChars? s.toList

/-! ## Base 64 -/

/-- The digit of a number below 64. -/
def base64Digit (n : Nat) : Char :=
  if n < 26 then Char.ofNat (0x41 + n)
  else if n < 52 then Char.ofNat (0x61 + (n - 26))
  else if n < 62 then Char.ofNat (0x30 + (n - 52))
  else if n == 62 then '+'
  else '/'

/-- The value of a base 64 digit. -/
def base64Value? (c : Char) : Option Nat :=
  if 'A' ≤ c && c ≤ 'Z' then some (c.toNat - 0x41)
  else if 'a' ≤ c && c ≤ 'z' then some (c.toNat - 0x61 + 26)
  else if '0' ≤ c && c ≤ '9' then some (c.toNat - 0x30 + 52)
  else if c == '+' then some 62
  else if c == '/' then some 63
  else none

/-- Base 64 digits without padding. -/
def base64Chars : Bytes → List Char
  | [] => []
  | [a] => [base64Digit (a.toNat / 4), base64Digit (a.toNat % 4 * 16)]
  | [a, b] =>
    [base64Digit (a.toNat / 4), base64Digit (a.toNat % 4 * 16 + b.toNat / 16),
      base64Digit (b.toNat % 16 * 4)]
  | a :: b :: c :: rest =>
    base64Digit (a.toNat / 4) :: base64Digit (a.toNat % 4 * 16 + b.toNat / 16) ::
      base64Digit (b.toNat % 16 * 4 + c.toNat / 64) :: base64Digit (c.toNat % 64) :: base64Chars rest

/-- The base 64 text of bytes, without padding. -/
def base64 (bytes : Bytes) : String := String.ofList (base64Chars bytes)

/-- The bytes of the values of base 64 digits. The bits left over at the end must be zero. -/
def ofSextets? : List Nat → Option Bytes
  | [] => some []
  | [_] => none
  | [a, b] => if b % 16 = 0 then some [UInt8.ofNat (a * 4 + b / 16)] else none
  | [a, b, c] =>
    if c % 4 = 0 then
      some [UInt8.ofNat (a * 4 + b / 16), UInt8.ofNat (b % 16 * 16 + c / 4)]
    else none
  | a :: b :: c :: d :: rest =>
    (ofSextets? rest).map fun more =>
      UInt8.ofNat (a * 4 + b / 16) :: UInt8.ofNat (b % 16 * 16 + c / 4) ::
        UInt8.ofNat (c % 4 * 64 + d) :: more

/-- The bytes of base 64 digits without padding. -/
def ofBase64Chars? (cs : List Char) : Option Bytes := do
  let values ← cs.mapM base64Value?
  ofSextets? values

/-- The bytes of a base 64 text without padding. -/
def ofBase64? (s : String) : Option Bytes := ofBase64Chars? s.toList

/-- The bytes of a base 64 text padded to a multiple of four characters. -/
def ofPaddedBase64? (s : String) : Option Bytes :=
  let cs := s.toList
  let digits := cs.takeWhile (· != '=')
  let padding := cs.drop digits.length
  if cs.length % 4 == 0 && padding.length ≤ 2 && padding.all (· == '=') then ofBase64Chars? digits
  else none

end DirectoryLogin.Digest
