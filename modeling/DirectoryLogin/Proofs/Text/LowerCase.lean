import DirectoryLogin.Text.LowerCase
import Mathlib.Data.List.Basic

/-!
# The two foldings of letter case

* `lower_lowerAscii`: full lower-casing does not see the case of the letters A to Z, not even in
  the neighbours of a capital sigma;
* `lower_eq_of_sameAscii`: so it does not tell texts apart that differ in that case only. The
  converse fails, since it knows more letters;
* `utf8ByteSize_lowerAscii`: folding in ASCII keeps the number of bytes;
* `SameLetters`: texts that differ in the case of the letters A to Z only, `sameAscii_iff`: these
  are the ones that compare as equal.
-/

namespace DirectoryLogin.Text

/-- All that lower-casing asks about a character. -/
structure SameFolding (c d : Char) : Prop where
  lowerChar : lowerChar c = lowerChar d
  ignorable : isCaseIgnorable c = isCaseIgnorable d
  cased : isCasedLetter c = isCasedLetter d
  sigma : (c == 'Σ') = (d == 'Σ')

/-- What relates every character to itself and the small letters to A to Z relates the folding in
ASCII to what it folds. -/
theorem toLower_related {R : Char → Char → Prop} (hsame : ∀ c, R c c)
    (hletter : ∀ n : Fin 26, R (Char.ofNat (n + 65)).toLower (Char.ofNat (n + 65))) (c : Char) :
    R c.toLower c := by
  by_cases hc : c.val ≥ 'A'.val ∧ c.val ≤ 'Z'.val
  · have hge : 65 ≤ c.toNat := UInt32.le_iff_toNat_le.mp hc.1
    have hle : c.toNat ≤ 90 := UInt32.le_iff_toNat_le.mp hc.2
    have hnum : c.toNat - 65 + 65 = c.toNat := Nat.sub_add_cancel hge
    have h := hletter ⟨c.toNat - 65, by omega⟩
    rwa [hnum, Char.ofNat_toNat] at h
  · have hlower : c.toLower = c := dif_neg hc
    rw [hlower]
    exact hsame c

/-! ## Up to the letter z -/

/-- Ranges that begin above a bound do not count for what is below it. -/
theorem inRanges_filter (ranges : List (Nat × Nat)) {n bound : Nat} (h : n ≤ bound) :
    inRanges (ranges.filter (·.1 ≤ bound)) n = inRanges ranges n := by
  unfold inRanges
  rw [List.any_filter]
  refine congrArg (List.any ranges) (funext fun r => ?_)
  have hbegins : r.1 ≤ n → r.1 ≤ bound := fun hr => Nat.le_trans hr h
  grind

theorem isCaseIgnorable_eq {c : Char} (h : c.toNat ≤ 122) : isCaseIgnorable c =
    inRanges [(0x27, 0x27), (0x2E, 0x2E), (0x3A, 0x3A), (0x5E, 0x5E), (0x60, 0x60)] c.toNat := by
  have hfirst : caseIgnorableRanges.filter (·.1 ≤ 122) =
      [(0x27, 0x27), (0x2E, 0x2E), (0x3A, 0x3A), (0x5E, 0x5E), (0x60, 0x60)] := by
    decide +kernel
  rw [isCaseIgnorable, ← inRanges_filter _ h, hfirst]

theorem isCasedLetter_eq {c : Char} (h : c.toNat ≤ 122) :
    isCasedLetter c = inRanges [(0x41, 0x5A), (0x61, 0x7A)] c.toNat := by
  have hfirst : casedLetterRanges.filter (·.1 ≤ 122) = [(0x41, 0x5A), (0x61, 0x7A)] := by
    decide +kernel
  rw [isCasedLetter, ← inRanges_filter _ h, hfirst]

/-- The letters A to Z fold as their small forms do. -/
theorem sameFolding_toLower (c : Char) : SameFolding c.toLower c := by
  have hsmall : ∀ n : Fin 26, (Char.ofNat (n + 65)).toLower.toNat ≤ 122 ∧
      (Char.ofNat (n + 65)).toNat ≤ 122 := by
    decide
  refine toLower_related (fun _ => ⟨rfl, rfl, rfl, rfl⟩) (fun n => ?_) c
  obtain ⟨hlower, hupper⟩ := hsmall n
  refine ⟨?_, ?_, ?_, ?_⟩
  · revert n
    decide
  · rw [isCaseIgnorable_eq hlower, isCaseIgnorable_eq hupper]
    revert n
    decide
  · rw [isCasedLetter_eq hlower, isCasedLetter_eq hupper]
    revert n
    decide
  · revert n
    decide

@[simp]
theorem utf8Size_toLower (c : Char) : c.toLower.utf8Size = c.utf8Size :=
  toLower_related (R := fun d c => d.utf8Size = c.utf8Size) (fun _ => rfl) (by decide) c

@[simp]
theorem toLower_toLower (c : Char) : c.toLower.toLower = c.toLower :=
  toLower_related (R := fun d c => d.toLower = c.toLower) (fun _ => rfl) (by decide) c

theorem meetsCasedLetter_map_toLower (cs : List Char) :
    meetsCasedLetter (cs.map Char.toLower) = meetsCasedLetter cs := by
  have hp : isCaseIgnorable ∘ Char.toLower = isCaseIgnorable :=
    funext fun c => (sameFolding_toLower c).ignorable
  rw [meetsCasedLetter, meetsCasedLetter, List.dropWhile_map, hp]
  cases cs.dropWhile isCaseIgnorable with
  | nil => rfl
  | cons c rest => exact (sameFolding_toLower c).cased

theorem sigmaIsFinal_map_toLower (before after : List Char) :
    sigmaIsFinal (before.map Char.toLower) (after.map Char.toLower) =
      sigmaIsFinal before after := by
  rw [sigmaIsFinal, meetsCasedLetter_map_toLower, meetsCasedLetter_map_toLower, sigmaIsFinal]

theorem lowerFrom_map_toLower (before cs : List Char) :
    lowerFrom (before.map Char.toLower) (cs.map Char.toLower) = lowerFrom before cs := by
  induction cs generalizing before with
  | nil => rfl
  | cons c rest ih =>
    have hc := sameFolding_toLower c
    have hrest := ih (c :: before)
    rw [List.map_cons] at hrest ⊢
    rw [lowerFrom, lowerFrom, hrest, hc.sigma, hc.lowerChar, sigmaIsFinal_map_toLower]

@[simp]
theorem utf8ByteSize_lowerAscii (s : String) : (lowerAscii s).utf8ByteSize = s.utf8ByteSize := by
  have hsize : ∀ cs : List Char,
      (String.ofList (cs.map Char.toLower)).utf8ByteSize = (String.ofList cs).utf8ByteSize := by
    intro cs
    induction cs with
    | nil => rfl
    | cons c cs ih =>
      simp only [List.map_cons, String.ofList_cons, String.utf8ByteSize_append,
        String.utf8ByteSize_singleton, utf8Size_toLower, ih]
  rw [lowerAscii, hsize, String.ofList_toList]

@[simp]
theorem lower_lowerAscii (s : String) : lower (lowerAscii s) = lower s := by
  rw [lower, lowerAscii, String.toList_ofList]
  exact congrArg String.ofList (lowerFrom_map_toLower [] s.toList)

theorem lower_eq_of_sameAscii {a b : String} (h : sameAscii a b = true) : lower a = lower b := by
  have heq : lowerAscii a = lowerAscii b := by simpa [sameAscii] using h
  rw [← lower_lowerAscii a, heq, lower_lowerAscii]

/-! ## Texts of the same letters -/

/-- The characters of a text, with the letters A to Z in lower case. -/
def letters (s : String) : List Char := s.toList.map Char.toLower

/-- The texts differ in the case of the letters A to Z only. -/
def SameLetters (a b : String) : Prop := letters a = letters b

instance (a b : String) : Decidable (SameLetters a b) :=
  inferInstanceAs (Decidable (letters a = letters b))

theorem sameAscii_iff {a b : String} : sameAscii a b = true ↔ SameLetters a b := by
  rw [sameAscii, beq_iff_eq, lowerAscii, lowerAscii, String.ofList_inj]
  rfl

theorem SameLetters.lower_eq {a b : String} (h : SameLetters a b) : lower a = lower b :=
  lower_eq_of_sameAscii (sameAscii_iff.mpr h)

end DirectoryLogin.Text
