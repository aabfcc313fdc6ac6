import DirectoryLogin.Proofs.Digest.Hex
import DirectoryLogin.Proofs.Text.Cuts
import DirectoryLogin.Session.Token

/-!
# Which cookies are accepted

A cookie is accepted for an id if what follows its last full stop spells the whole code of the id.
Hexadecimal digits are no full stops, so the id may hold any number of them.

* `verify?_eq_some_iff`: a cookie is an id, a full stop, and digits that spell the code of the id;
* `verify?_exact`: the same with the shape of the digits in full, and the cookies that are handed
  out among the accepted ones.
-/

namespace DirectoryLogin.SessionToken

open Digest (Bytes IsHexDigit Spells)

variable {secret : Bytes} {value id tag : String} {bytes : Bytes}

theorem notMem_of_spells {cs : List Char} (h : Spells cs bytes) : '.' ∉ cs := by
  intro hmem
  have hstop : ¬ '.'.toLower ∈ Digest.hexDigits := by decide
  exact hstop (h.isHexDigit '.' hmem)

theorem ofHex?_eq_some_iff : Digest.ofHex? tag = some bytes ↔ Spells tag.toList bytes :=
  Digest.ofHexChars?_eq_some_iff

theorem length_of_spells_code (h : Spells tag.toList (code secret id)) : tag.length = 64 := by
  have hcode : (code secret id).length = 32 := Digest.length_hmac secret (Digest.utf8 id)
  rw [← String.length_toList, h.length_eq, hcode]

theorem verify?_eq_some_iff : verify? secret value = some id ↔
    ∃ tag, value = id ++ "." ++ tag ∧ Spells tag.toList (code secret id) := by
  unfold verify?
  constructor
  · intro h
    cases hsplit : Text.splitLast? '.' value with
    | none => simp [hsplit] at h
    | some parts =>
      obtain ⟨start, tag⟩ := parts
      cases hbytes : Digest.ofHex? tag with
      | none => simp [hsplit, hbytes] at h
      | some bytes =>
        simp only [hsplit, hbytes, Option.bind_eq_bind, Option.bind_some] at h
        split at h
        · rename_i hcode
          obtain rfl := Option.some.inj h
          have hvalue := Text.eq_of_splitLast? hsplit
          refine ⟨tag, ?_, ?_⟩
          · rw [← String.toList_inj, hvalue]
            simp
          · rw [← hcode]
            exact ofHex?_eq_some_iff.mp hbytes
        · cases h
  · rintro ⟨tag, rfl, htag⟩
    have hsplit : Text.splitLast? '.' (id ++ "." ++ tag) = some (id, tag) :=
      Text.splitLast?_append id (notMem_of_spells htag)
    simp [hsplit, ofHex?_eq_some_iff.mpr htag]

theorem verify?_sign (secret : Bytes) (id : String) :
    verify? secret (sign secret id) = some id := by
  refine verify?_eq_some_iff.mpr ⟨Digest.hex (code secret id), rfl, ?_⟩
  rw [Digest.hex, String.toList_ofList]
  exact Digest.spells_hexChars (code secret id)

/-- A cookie is accepted, and then for the text before its last full stop, exactly when 64
hexadecimal digits of either letter case follow there that spell the keyed digest of that text. So
is every cookie that is handed out, whatever its id. -/
theorem verify?_exact (secret : Bytes) (value : String) :
    (∀ id, verify? secret value = some id ↔
      ∃ tag, value = id ++ "." ++ tag ∧ '.' ∉ tag.toList ∧
        tag.length = 64 ∧ (∀ c ∈ tag.toList, IsHexDigit c) ∧
        Spells tag.toList (Digest.hmac secret (Digest.utf8 id))) ∧
      ∀ id, verify? secret (sign secret id) = some id := by
  refine ⟨fun id => ?_, verify?_sign secret⟩
  rw [verify?_eq_some_iff]
  constructor
  · rintro ⟨tag, hvalue, htag⟩
    exact ⟨tag, hvalue, notMem_of_spells htag, length_of_spells_code htag, htag.isHexDigit, htag⟩
  · rintro ⟨tag, hvalue, -, -, -, htag⟩
    exact ⟨tag, hvalue, htag⟩

end DirectoryLogin.SessionToken
