import DirectoryLogin.Proofs.Text.FinalSigma
import DirectoryLogin.Proofs.Text.Trimming

/-!
# Lower-casing goes piece by piece

White space, the comma and the equals sign separate words: lower-casing keeps them, makes them of no
other character, and does not look past them from a capital sigma. So a text can be cut at them, or
have them stripped off, before it is lower-cased as well as after.

* `lowerFrom_append_cons`: both sides of a separator are lower-cased by themselves;
* `splitOn_lower`, `splitFirst?_lower`, `trim_lower`: the pieces between separators, the two sides
  of the first one, and what is left without white space at the ends;
* `sameAscii_lower_cn`: no letter outside ASCII takes part in the name `cn`.
-/

namespace DirectoryLogin.Text

variable {c d x sep : Char} {before after cs : List Char}

/-! ## One character -/

/-- What becomes of a character between the text before it, in reverse, and the text after it. -/
def lowerForm (before after : List Char) (c : Char) : List Char :=
  if c == 'Σ' then (if sigmaIsFinal before after then ['ς'] else ['σ']) else lowerChar c

theorem lowerFrom_cons (before : List Char) (c : Char) (rest : List Char) :
    lowerFrom before (c :: rest) = lowerForm before rest c ++ lowerFrom (c :: before) rest := rfl

/-- White space, the comma and the equals sign. -/
def isSeparator (c : Char) : Bool := isBlank c || c == ',' || c == '='

/-- The codes of the separators. -/
def separatorCodes : List Nat := blankCodes ++ [0x2C, 0x3D]

theorem mem_separatorCodes (h : isSeparator c = true) : c.toNat ∈ separatorCodes := by
  simp only [isSeparator, Bool.or_eq_true, beq_iff_eq] at h
  rcases h with (hblank | rfl) | rfl
  · exact List.mem_append_left _ (isBlank_iff.mp hblank)
  · decide
  · decide

theorem isSeparator_of_isBlank (h : isBlank c = true) : isSeparator c = true := by
  simp [isSeparator, h]

/-- Codes that lower-casing assigns to no character outside ASCII: those of the separators and of
the letters of `cn`. -/
def unassigned : List Nat := separatorCodes ++ [0x43, 0x4E, 0x63, 0x6E]

theorem notMem_unassigned_of_lowerRuns {n m : Nat}
    (h : lowerRuns.findSome? (runLower? n) = some m) : m ∉ unassigned := by
  -- No run reaches over one of these codes, once it is moved by its distance.
  have htable : ∀ run ∈ lowerRuns, ∀ code ∈ unassigned,
      ¬ ((run.1 : Int) + run.2.2.2 ≤ code ∧ (code : Int) ≤ run.2.1 + run.2.2.2) := by
    decide +kernel
  obtain ⟨⟨first, last, step, shift⟩, hrun, hm⟩ := List.exists_of_findSome?_eq_some h
  simp only [runLower?] at hm
  split at hm
  · rename_i hin
    cases hm
    simp only [Bool.and_eq_true, decide_eq_true_eq] at hin
    intro hcode
    have hpositive : ∀ code ∈ unassigned, 0 < code := by decide
    have := hpositive _ hcode
    exact htable _ hrun _ hcode (by simp only; omega)
  · cases hm

theorem toNat_ofNat_mem {n : Nat} (h : (Char.ofNat n).toNat ∈ unassigned) : n ∈ unassigned := by
  by_cases hn : n.isValidChar
  · rwa [Char.ofNat, dif_pos hn, show (Char.ofNatAux n hn).toNat = n from rfl] at h
  · rw [Char.ofNat, dif_neg hn] at h
    exact absurd h (by decide)

theorem toLower_of_ge (h : ¬ c.toNat < 0x80) : c.toLower = c :=
  toLower_related (R := fun d c => ¬ c.toNat < 0x80 → d = c) (fun _ _ => rfl) (by decide) c h

/-- A character with one of these codes can only come from the letter of either case. -/
theorem lowerChar_of_mem (hx : x ∈ lowerChar d) (hcode : x.toNat ∈ unassigned) :
    lowerChar d = [d.toLower] := by
  unfold lowerChar at hx ⊢
  split at hx
  · rename_i hascii
    rw [if_pos hascii]
  · rename_i hascii
    rw [if_neg hascii]
    split at hx
    · rcases List.mem_pair.mp hx with rfl | rfl
      · exact absurd hcode (by decide)
      · exact absurd hcode (by decide)
    · rename_i hdotted
      rw [if_neg hdotted]
      cases hrun : lowerRuns.findSome? (runLower? d.toNat) with
      | none => rw [toLower_of_ge hascii]
      | some n =>
        rw [hrun] at hx
        rw [List.mem_singleton.mp hx] at hcode
        exact absurd (toNat_ofNat_mem hcode) (notMem_unassigned_of_lowerRuns hrun)

theorem lowerForm_of_mem (hx : x ∈ lowerForm before after d) (hcode : x.toNat ∈ unassigned) :
    lowerForm before after d = [d.toLower] := by
  unfold lowerForm at hx ⊢
  split at hx
  · refine absurd hcode ?_
    split at hx <;> (rw [List.mem_singleton.mp hx]; decide)
  · rename_i hsigma
    rw [if_neg hsigma]
    exact lowerChar_of_mem hx hcode

theorem lowerForm_ne_nil : lowerForm before after c ≠ [] := by
  unfold lowerForm lowerChar
  repeat' split
  all_goals exact List.cons_ne_nil _ _

theorem lowerForm_separator (h : isSeparator c = true) : lowerForm before after c = [c] := by
  have hkept : ∀ code ∈ separatorCodes,
      Char.ofNat code ≠ 'Σ' ∧ lowerChar (Char.ofNat code) = [Char.ofNat code] := by
    decide +kernel
  obtain ⟨hsigma, hlower⟩ := hkept _ (mem_separatorCodes h)
  rw [Char.ofNat_toNat] at hsigma hlower
  rw [lowerForm, if_neg (by simpa using hsigma), hlower]

theorem eq_of_mem_lowerForm (h : isSeparator x = true) (hx : x ∈ lowerForm before after d) :
    d = x := by
  have hcode := mem_separatorCodes h
  have hself : ∀ d : Char, d.toLower.toNat ∈ separatorCodes → d = d.toLower :=
    toLower_related (R := fun x d => x.toNat ∈ separatorCodes → d = x) (fun _ _ => rfl) (by decide)
  rw [lowerForm_of_mem hx (List.mem_append_left _ hcode), List.mem_singleton] at hx
  rw [hx] at hcode ⊢
  exact hself d hcode

/-! ## Texts with separators -/

theorem mem_lowerFrom (h : isSeparator x = true) (before cs : List Char) :
    x ∈ lowerFrom before cs ↔ x ∈ cs := by
  induction cs generalizing before with
  | nil => exact Iff.rfl
  | cons c rest ih =>
    rw [lowerFrom_cons, List.mem_append, List.mem_cons, ih]
    refine or_congr_left ⟨fun hx => (eq_of_mem_lowerForm h hx).symm, ?_⟩
    rintro rfl
    rw [lowerForm_separator h]
    exact List.mem_singleton_self x

theorem meetsCasedLetter_append_cons (h : isSeparator c = true) (cs beyond : List Char) :
    meetsCasedLetter (cs ++ c :: beyond) = meetsCasedLetter cs := by
  have hcodes : ∀ code ∈ separatorCodes, inRanges caseIgnorableRanges code = false ∧
      inRanges casedLetterRanges code = false := by
    decide +kernel
  obtain ⟨hignorable, hcased⟩ := hcodes _ (mem_separatorCodes h)
  rw [meetsCasedLetter_append]
  split
  · rename_i hall
    rw [meetsCasedLetter_of_all hall]
    simp [meetsCasedLetter, isCaseIgnorable, isCasedLetter, hignorable, hcased]
  · rfl

theorem lowerFrom_append_cons (h : isSeparator c = true) (a b : List Char) :
    lowerFrom [] (a ++ c :: b) = lowerFrom [] a ++ c :: lowerFrom [] b := by
  have hbefore : lowerWithin [] (c :: b) a = lowerFrom [] a := by
    rw [lowerFrom_eq_lowerWithin]
    refine lowerWithin_congr fun x y _ => ?_
    simp only [sigmaIsFinal, meetsCasedLetter_append_cons h, List.append_nil]
  have hafter : lowerFrom (c :: (a.reverse ++ [])) b = lowerFrom [] b := by
    rw [lowerFrom_eq_lowerWithin, lowerFrom_eq_lowerWithin]
    refine lowerWithin_congr fun x y _ => ?_
    simp only [sigmaIsFinal, meetsCasedLetter_append_cons h, List.append_nil]
  rw [lowerFrom_append, hbefore, lowerFrom_cons, lowerForm_separator h, hafter,
    List.singleton_append]

theorem pieces_lowerFrom (h : isSeparator sep = true) (cs : List Char) :
    pieces sep (lowerFrom [] cs) = (pieces sep cs).map (lowerFrom []) := by
  induction hn : cs.length using Nat.strong_induction_on generalizing cs with
  | _ n ih =>
    by_cases hmem : sep ∈ cs
    · obtain ⟨a, b, rfl⟩ := List.append_of_mem hmem
      have hlength : a.length + (b.length + 1) = n := by
        rw [← hn, List.length_append, List.length_cons]
      rw [lowerFrom_append_cons h, pieces_append_cons, pieces_append_cons, List.map_append,
        ih a.length (by omega) a rfl, ih b.length (by omega) b rfl]
    · have hlower : sep ∉ lowerFrom [] cs := fun hx => hmem ((mem_lowerFrom h [] cs).mp hx)
      rw [pieces_eq_singleton hmem, pieces_eq_singleton hlower, List.map_singleton]

theorem cutFirst?_lowerFrom (h : isSeparator sep = true) (cs : List Char) :
    cutFirst? sep (lowerFrom [] cs) =
      (cutFirst? sep cs).map (Prod.map (lowerFrom []) (lowerFrom [])) := by
  cases hcut : cutFirst? sep cs with
  | none =>
    rw [cutFirst?_eq_none_iff] at hcut
    exact cutFirst?_eq_none_iff.mpr fun hx => hcut ((mem_lowerFrom h [] cs).mp hx)
  | some ab =>
    obtain ⟨a, b⟩ := ab
    obtain ⟨rfl, ha⟩ := cutFirst?_eq_some_iff.mp hcut
    rw [lowerFrom_append_cons h]
    exact cutFirst?_append_cons (fun hx => ha ((mem_lowerFrom h [] a).mp hx)) _

theorem lowerFrom_blank_append {w : List Char} (hw : ∀ c ∈ w, isBlank c = true) (cs : List Char) :
    lowerFrom [] (w ++ cs) = w ++ lowerFrom [] cs := by
  induction w with
  | nil => rfl
  | cons c w ih =>
    have hc := isSeparator_of_isBlank (hw c List.mem_cons_self)
    rw [List.cons_append, ← List.nil_append (c :: (w ++ cs)), lowerFrom_append_cons hc,
      ih fun c h => hw c (List.mem_cons_of_mem _ h)]
    rfl

theorem lowerFrom_append_blank {w : List Char} (hw : ∀ c ∈ w, isBlank c = true) (cs : List Char) :
    lowerFrom [] (cs ++ w) = lowerFrom [] cs ++ w := by
  cases w with
  | nil => rw [List.append_nil, List.append_nil]
  | cons c w =>
    have hself := lowerFrom_blank_append (fun c h => hw c (List.mem_cons_of_mem _ h)) []
    rw [List.append_nil] at hself
    rw [lowerFrom_append_cons (isSeparator_of_isBlank (hw c List.mem_cons_self)), hself]
    simp [lowerFrom]

theorem stripBoth_lowerFrom (cs : List Char) :
    stripBoth isBlank (lowerFrom [] cs) = lowerFrom [] (stripBoth isBlank cs) := by
  obtain ⟨before, after, hbefore, hafter, hcs⟩ := exists_stripBoth isBlank cs
  have hmiddle := stripBoth_stripBoth isBlank cs
  generalize stripBoth isBlank cs = middle at hcs hmiddle ⊢
  obtain ⟨hhead, hlast⟩ := stripBoth_eq_self_iff.mp hmiddle
  -- A blank character made of a character is that character, at either end.
  have hblank : ∀ {x d : Char} {p q : List Char}, x ∈ lowerForm p q d → isBlank d = false →
      isBlank x = false := by
    intro x d p q hx hd
    by_contra hne
    rw [Bool.not_eq_false] at hne
    rw [eq_of_mem_lowerForm (isSeparator_of_isBlank hne) hx, hne] at hd
    cases hd
  rw [hcs, lowerFrom_append_blank hafter, lowerFrom_blank_append hbefore,
    stripBoth_append_right hafter, stripBoth_append_left hbefore, stripBoth_eq_self_iff]
  constructor
  · intro x hx
    cases middle with
    | nil => cases hx
    | cons d rest =>
      rw [lowerFrom_cons, List.head?_append_of_ne_nil _ lowerForm_ne_nil] at hx
      exact hblank (List.mem_of_mem_head? hx) (hhead d rfl)
  · intro x hx
    rcases List.eq_nil_or_concat middle with rfl | ⟨rest, d, rfl⟩
    · cases hx
    · rw [List.concat_eq_append] at hx hlast
      rw [lowerFrom_append, lowerFrom_cons, lowerFrom, List.append_nil,
        List.getLast?_append_of_ne_nil _ lowerForm_ne_nil] at hx
      exact hblank (List.mem_of_getLast? hx) (hlast d (by simp))

/-! ## On texts -/

theorem splitOn_lower (h : isSeparator sep = true) (s : String) :
    splitOn sep (lower s) = (splitOn sep s).map lower := by
  simp [splitOn, lower, pieces_lowerFrom h, Function.comp_def]

theorem splitFirst?_lower (h : isSeparator sep = true) (s : String) :
    splitFirst? sep (lower s) = (splitFirst? sep s).map (Prod.map lower lower) := by
  rw [splitFirst?, lower, String.toList_ofList, cutFirst?_lowerFrom h, splitFirst?, Option.map_map,
    Option.map_map]
  refine congrArg (Option.map · _) (funext fun _ => ?_)
  simp [lower]

@[simp]
theorem trim_lower (s : String) : trim (lower s) = lower (trim s) := by
  rw [trim, lower, String.toList_ofList, stripBoth_lowerFrom, lower, trim, String.toList_ofList]

theorem mem_lower (h : isSeparator x = true) (s : String) :
    x ∈ (lower s).toList ↔ x ∈ s.toList := by
  rw [lower, String.toList_ofList, mem_lowerFrom h]

/-- A text whose lower case has these codes only is folded in ASCII. -/
theorem lowerFrom_eq_map_toLower (h : ∀ x ∈ lowerFrom before cs, x.toNat ∈ unassigned) :
    lowerFrom before cs = cs.map Char.toLower := by
  induction cs generalizing before with
  | nil => rfl
  | cons c rest ih =>
    rw [lowerFrom_cons] at h ⊢
    obtain ⟨x, hx⟩ := List.exists_mem_of_ne_nil (lowerForm before rest c) lowerForm_ne_nil
    rw [ih fun y hy => h y (List.mem_append_right _ hy),
      lowerForm_of_mem hx (h x (List.mem_append_left _ hx))]
    rfl

theorem lower_cn : lower "cn" = "cn" := by decide +kernel

theorem sameAscii_lower_cn (s : String) : sameAscii (lower s) "cn" = sameAscii s "cn" := by
  rw [Bool.eq_iff_iff]
  constructor
  · intro h
    have hfolded : (lowerFrom [] s.toList).map Char.toLower = ['c', 'n'] := by
      simpa [sameAscii, lowerAscii, lower, ← String.toList_inj] using h
    have hself : ∀ x ∈ ['c', 'n'], x.toNat ∈ unassigned := by
      intro x hx
      rcases List.mem_pair.mp hx with rfl | rfl <;> decide
    have hcode : ∀ x : Char, x.toLower ∈ ['c', 'n'] → x.toNat ∈ unassigned :=
      toLower_related (R := fun y x => y ∈ ['c', 'n'] → x.toNat ∈ unassigned) hself (by decide)
    have hplain : lowerFrom [] s.toList = s.toList.map Char.toLower :=
      lowerFrom_eq_map_toLower fun x hx => hcode x (hfolded ▸ List.mem_map_of_mem hx)
    rw [hplain, List.map_map] at hfolded
    simpa [sameAscii, lowerAscii, ← String.toList_inj, Function.comp_def] using hfolded
  · intro h
    rw [lower_eq_of_sameAscii h, lower_cn]
    rfl

end DirectoryLogin.Text
