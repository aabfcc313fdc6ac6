import DirectoryLogin.Proofs.Digest.Base64
import DirectoryLogin.Proofs.Text.LowerCase

/-!
# Hexadecimal texts

`Spells` says what a hexadecimal text stands for: two digits for each byte, the high one first,
each in either letter case.

* `ofHexChars?_eq_some_iff`: the reader takes exactly the texts that spell some bytes;
* `spells_hexChars`: what the writer writes spells the bytes that it was written from;
* `Spells.length_eq`, `Spells.isHexDigit`: there are two characters for each byte, and all of them
  are digits.
-/

namespace DirectoryLogin.Digest

/-- The digits in the order of their values. -/
def hexDigits : List Char := "0123456789abcdef".toList

/-- The character is a hexadecimal digit, of either letter case. -/
def IsHexDigit (c : Char) : Prop := c.toLower ∈ hexDigits

/-- The character is the digit of a number, in either letter case. -/
def IsDigitOf (n : Nat) (c : Char) : Prop := hexDigits[n]? = some c.toLower

/-- Two digits for each byte. -/
inductive Spells : List Char → Bytes → Prop
  | nil : Spells [] []
  | byte {high low : Char} {b : UInt8} {cs : List Char} {bytes : Bytes}
      (hhigh : IsDigitOf (b.toNat / 16) high) (hlow : IsDigitOf (b.toNat % 16) low)
      (hrest : Spells cs bytes) : Spells (high :: low :: cs) (b :: bytes)

variable {c : Char} {n : Nat} {cs : List Char} {bytes : Bytes}

/-! ## Digits -/

theorem IsDigitOf.isHexDigit (h : IsDigitOf n c) : IsHexDigit c := List.mem_of_getElem? h

theorem IsDigitOf.lt (h : IsDigitOf n c) : n < 16 := (List.getElem?_eq_some_iff.mp h).1

/-- All digits are in ASCII. -/
theorem IsHexDigit.toNat_lt (h : IsHexDigit c) : c.toNat < 128 := by
  have hdigits : (hexDigits.all fun d => d.toNat < 128) = true := by decide
  have hsmall : c.toLower.toNat < 128 := by simpa using List.all_eq_true.mp hdigits _ h
  exact Text.toLower_related (R := fun d c => d.toNat < 128 → c.toNat < 128) (fun _ => id)
    (by decide) c hsmall

theorem toNat_lt_of_hexValue? (h : hexValue? c = some n) : c.toNat < 128 ∧ n < 16 := by
  have hnumbers : '0'.toNat = 48 ∧ '9'.toNat = 57 ∧ 'a'.toNat = 97 ∧ 'f'.toNat = 102 ∧
      'A'.toNat = 65 ∧ 'F'.toNat = 70 := by decide
  simp only [hexValue?, Bool.and_eq_true, decide_eq_true_eq, Char.le_def, UInt32.le_iff_toNat_le,
    Char.toNat_val] at h
  split at h
  · have hn := Option.some.inj h
    omega
  · split at h
    · have hn := Option.some.inj h
      omega
    · split at h
      · have hn := Option.some.inj h
        omega
      · cases h

theorem hexValue?_eq_some_iff : hexValue? c = some n ↔ IsDigitOf n c := by
  have hall : ∀ (m : Fin 16) (k : Fin 128), hexValue? (Char.ofNat k) = some m.val ↔
      hexDigits[m.val]? = some (Char.ofNat k).toLower := by
    decide +kernel
  have hboth (hc : c.toNat < 128) (hn : n < 16) : hexValue? c = some n ↔ IsDigitOf n c := by
    simpa [IsDigitOf, Char.ofNat_toNat] using hall ⟨n, hn⟩ ⟨c.toNat, hc⟩
  constructor
  · intro h
    obtain ⟨hc, hn⟩ := toNat_lt_of_hexValue? h
    exact (hboth hc hn).mp h
  · intro h
    exact (hboth h.isHexDigit.toNat_lt h.lt).mpr h

/-- The small digits are digits of their numbers. -/
theorem isDigitOf_hexDigit (h : n < 16) : IsDigitOf n (hexDigit n) := by
  have hall : ∀ m : Fin 16, hexDigits[m.val]? = some (hexDigit m).toLower := by decide +kernel
  exact hall ⟨n, h⟩

/-! ## Texts -/

theorem Spells.length_eq (h : Spells cs bytes) : cs.length = 2 * bytes.length := by
  induction h with
  | nil => rfl
  | byte hhigh hlow hrest ih =>
    simp only [List.length_cons, ih]
    omega

theorem Spells.isHexDigit (h : Spells cs bytes) : ∀ c ∈ cs, IsHexDigit c := by
  induction h with
  | nil => exact List.forall_mem_nil _
  | byte hhigh hlow hrest ih =>
    simp only [List.forall_mem_cons]
    exact ⟨hhigh.isHexDigit, hlow.isHexDigit, ih⟩

theorem spells_hexChars (bytes : Bytes) : Spells (hexChars bytes) bytes := by
  induction bytes with
  | nil => exact .nil
  | cons b bytes ih =>
    have hb := b.toNat_lt
    exact .byte (isDigitOf_hexDigit (by omega)) (isDigitOf_hexDigit (by omega)) ih

theorem ofHexChars?_eq_some_iff : ofHexChars? cs = some bytes ↔ Spells cs bytes := by
  constructor
  · intro h
    induction cs using ofHexChars?.induct generalizing bytes with
    | case1 =>
      cases h
      exact .nil
    | case2 c => cases h
    | case3 high low cs ih =>
      simp only [ofHexChars?, Option.bind_eq_bind, Option.bind_eq_some_iff, Option.some.injEq] at h
      obtain ⟨x, hx, y, hy, more, hmore, rfl⟩ := h
      rw [hexValue?_eq_some_iff] at hx hy
      have hx16 := hx.lt
      have hy16 := hy.lt
      have hvalue : (UInt8.ofNat (x * 16 + y)).toNat = x * 16 + y := by
        rw [UInt8.toNat_ofNat', Nat.mod_eq_of_lt (by omega)]
      refine .byte ?_ ?_ (ih hmore)
      · rwa [hvalue, show (x * 16 + y) / 16 = x by omega]
      · rwa [hvalue, show (x * 16 + y) % 16 = y by omega]
  · intro h
    induction h with
    | nil => rfl
    | @byte high low b cs bytes hhigh hlow hrest ih =>
      have hb : UInt8.ofNat (b.toNat / 16 * 16 + b.toNat % 16) = b := ofNat_eq (by omega)
      simp only [ofHexChars?, hexValue?_eq_some_iff.mpr hhigh, hexValue?_eq_some_iff.mpr hlow, ih,
        Option.bind_eq_bind, Option.bind_some, hb]

end DirectoryLogin.Digest
