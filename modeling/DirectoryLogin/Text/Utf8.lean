import DirectoryLogin.Digest.Bytes

/-!
# Reading UTF-8 with faults

`ofBytes` reads bytes as UTF-8 and puts the replacement character in the place of each fault. What
counts as one fault is the longest start of a character that cannot be continued, or else a single
byte. The reader takes one byte at a time and keeps the character that it is in.
-/

namespace DirectoryLogin.Text

open Digest (Bytes)

/-- A character of which some bytes have been read. -/
structure PartialChar where
  /-- How many bytes are missing. -/
  missing : Nat
  /-- The bounds of the next byte. -/
  low : UInt8
  high : UInt8
  /-- The bits read so far. -/
  bits : Nat
  deriving Repr

/-- Stands for bytes that are no character. -/
def replacementChar : Char := '\uFFFD'

/-- What the first byte of a character says: the character, its start, or a fault. The bounds of
the second byte leave out overlong forms, surrogates and numbers beyond the last character. -/
def startChar (b : UInt8) : List Char × Option PartialChar :=
  let n := b.toNat
  if n < 0x80 then ([Char.ofNat n], none)
  else if n < 0xC2 then ([replacementChar], none)
  else if n < 0xE0 then ([], some ⟨1, 0x80, 0xBF, n - 0xC0⟩)
  else if n < 0xF0 then
    ([], some ⟨2, if n = 0xE0 then 0xA0 else 0x80, if n = 0xED then 0x9F else 0xBF, n - 0xE0⟩)
  else if n < 0xF5 then
    ([], some ⟨3, if n = 0xF0 then 0x90 else 0x80, if n = 0xF4 then 0x8F else 0xBF, n - 0xF0⟩)
  else ([replacementChar], none)

/-- Reads on in the middle of a character, or between characters. -/
def lossyChars : Option PartialChar → Bytes → List Char
  | none, [] => []
  | some _, [] => [replacementChar]
  | none, b :: rest =>
    let (done, next) := startChar b
    done ++ lossyChars next rest
  | some p, b :: rest =>
    if p.low ≤ b && b ≤ p.high then
      let bits := p.bits * 64 + b.toNat % 64
      if p.missing ≤ 1 then Char.ofNat bits :: lossyChars none rest
      else lossyChars (some ⟨p.missing - 1, 0x80, 0xBF, bits⟩) rest
    else
      let (done, next) := startChar b
      replacementChar :: (done ++ lossyChars next rest)

/-- The text of bytes, with faults replaced. -/
def ofBytes (bytes : Bytes) : String := String.ofList (lossyChars none bytes)

end DirectoryLogin.Text
