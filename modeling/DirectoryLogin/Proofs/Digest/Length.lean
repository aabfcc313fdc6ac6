import DirectoryLogin.Digest.Argon2

/-!
# Lengths of digests

* `length_blake2b`: a digest has the length that was asked for;
* `Argon2.length_tag`: so has a tag of at most 64 bytes.
-/

namespace DirectoryLogin.Digest

@[simp]
theorem Row.length_toList (v : Row) : v.toList.length = 16 := rfl

@[simp]
theorem length_littleEndian64 (w : UInt64) : (littleEndian64 w).length = 8 := rfl

theorem length_flatMap_littleEndian64 (ws : List UInt64) :
    (ws.flatMap littleEndian64).length = 8 * ws.length := by
  induction ws with
  | nil => rfl
  | cons w rest ih =>
    rw [List.flatMap_cons, List.length_append, ih, length_littleEndian64, List.length_cons]
    omega

namespace Blake2b

variable {h : List UInt64}

/-- Taking in a block keeps the eight words of the state. -/
theorem length_compress (hh : h.length = 8) (m : List UInt64) (count : Nat) (last : Bool) :
    (compress h m count last).length = 8 := by
  simp only [compress, List.length_zipWith, List.length_drop, Row.length_toList, hh]
  rfl

theorem length_absorb (hh : h.length = 8) (n count : Nat) (message : Bytes) :
    (absorb n h count message).length = 8 := by
  induction n generalizing h count message with
  | zero => exact hh
  | succ n ih =>
    rw [absorb]
    split
    · exact length_compress hh ..
    · exact ih (length_compress hh ..) ..

end Blake2b

theorem length_blake2b {n : Nat} (h : n ≤ 64) (message : Bytes) : (blake2b n message).length = n := by
  simp only [blake2b, List.length_take, length_flatMap_littleEndian64]
  rw [Blake2b.length_absorb rfl]
  omega

namespace Argon2

theorem length_longDigest {n : Nat} (h : n ≤ 64) (message : Bytes) :
    (longDigest n message).length = n := by
  simp only [longDigest, if_pos h]
  exact length_blake2b h _

theorem length_tag {p : Params} (h : p.tagLength ≤ 64) (password salt : Bytes) :
    (tag p password salt).length = p.tagLength :=
  length_longDigest h _

end Argon2

end DirectoryLogin.Digest
