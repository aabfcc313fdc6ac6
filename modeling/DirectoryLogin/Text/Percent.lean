import DirectoryLogin.Text.Search
import DirectoryLogin.Text.Utf8

/-!
# Percent-encoded text

A percent sign and two hexadecimal digits stand for a byte; a percent sign without them stands for
itself. `percentDecode?` wants the bytes to be UTF-8, and `formFields` reads the fields of a form,
where faults in the UTF-8 are replaced.
-/

namespace DirectoryLogin.Text

open Digest (Bytes)

/-- The value of a byte that is a hexadecimal digit. -/
def hexByte? (b : UInt8) : Option Nat := Digest.hexValue? (Char.ofNat b.toNat)

/-- The bytes that percent-encoded bytes stand for. -/
def percentBytes : Bytes → Bytes
  | 0x25 :: a :: b :: rest =>
    match hexByte? a, hexByte? b with
    | some high, some low => UInt8.ofNat (high * 16 + low) :: percentBytes rest
    | _, _ => 0x25 :: percentBytes (a :: b :: rest)
  | b :: rest => b :: percentBytes rest
  | [] => []

/-- The text that a percent-encoded text stands for. -/
def percentDecode? (s : String) : Option String := Digest.ofUtf8? (percentBytes (Digest.utf8 s))

/-- The text of a name or a value in a form, where a plus sign stands for a space. -/
def formText (s : String) : String :=
  ofBytes (percentBytes ((Digest.utf8 s).map fun b => if b == 0x2B then 0x20 else b))

/-- The name and the value of one field of a form. -/
def formField (s : String) : String × String :=
  match splitFirst? '=' s with
  | some (name, value) => (formText name, formText value)
  | none => (formText s, "")

/-- The fields of a form, in order. -/
def formFields (s : String) : List (String × String) :=
  ((splitOn '&' s).filter (!·.isEmpty)).map formField

end DirectoryLogin.Text
