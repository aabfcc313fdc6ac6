import DirectoryLogin.Text.Search
import Mathlib.Data.List.DropRight

/-!
# Cuts and joins

* `splitOn_intercalate`: texts joined by a separator that occurs in none of them are the pieces
  between the separators;
* `intercalate_splitOn`: the pieces of a text, joined by the separator, are the text;
* `notMem_of_mem_splitOn`, `exists_mem_splitOn`: none of them holds the separator, and together they
  hold every other character;
* `head?_splitOn_eq_some_iff`: the piece before the first separator;
* `splitFirst?_eq_some_iff`: the cut at the first separator;
* `splitLast?_append`, `eq_of_splitLast?`, `notMem_of_splitLast?`: the cut at the last separator;
* `startsWith_iff`, `contains_iff`: how a text begins, and what it holds;
* `dropEnd?_eq_some_iff`, `dropTrailing_eq_iff`: what is dropped at the end of a text.
-/

namespace DirectoryLogin.Text

theorem pieces_ne_nil (sep : Char) (cs : List Char) : pieces sep cs ≠ [] := by
  induction cs with
  | nil => exact List.cons_ne_nil _ _
  | cons c rest ih =>
    rw [pieces]
    split
    · exact List.cons_ne_nil _ _
    · split
      · exact List.cons_ne_nil _ _
      · exact List.cons_ne_nil _ _

theorem pieces_eq_splitOn (sep : Char) (cs : List Char) : pieces sep cs = cs.splitOn sep := by
  induction cs with
  | nil => rfl
  | cons c rest ih =>
    rw [List.splitOn_eq_splitOnP, List.splitOnP_cons_eq_if_modifyHead, ← List.splitOn_eq_splitOnP,
      ← ih, pieces]
    cases hp : pieces sep rest with
    | nil => exact absurd hp (pieces_ne_nil sep rest)
    | cons p ps => rfl

theorem pieces_cons (sep c : Char) (rest : List Char) : pieces sep (c :: rest) =
    if c == sep then [] :: pieces sep rest else (pieces sep rest).modifyHead (c :: ·) := by
  rw [pieces_eq_splitOn, pieces_eq_splitOn, List.splitOn_cons_eq_if_modifyHead]

theorem pieces_append_cons (sep : Char) (a b : List Char) :
    pieces sep (a ++ sep :: b) = pieces sep a ++ pieces sep b := by
  rw [pieces_eq_splitOn, pieces_eq_splitOn, pieces_eq_splitOn, List.splitOn_append_cons_self]

theorem pieces_append_left {sep : Char} {w : List Char} (h : sep ∉ w) (cs : List Char) :
    pieces sep (w ++ cs) = (pieces sep cs).modifyHead (w ++ ·) := by
  induction w with
  | nil =>
    rw [List.nil_append]
    cases pieces sep cs <;> rfl
  | cons c w ih =>
    rw [List.mem_cons, not_or] at h
    obtain ⟨hc, hw⟩ := h
    rw [List.cons_append, pieces_cons, if_neg (by simpa using Ne.symm hc), ih hw,
      List.modifyHead_modifyHead]
    rfl

theorem pieces_eq_singleton {sep : Char} {cs : List Char} (h : sep ∉ cs) : pieces sep cs = [cs] := by
  simpa [pieces] using pieces_append_left h []

/-- What is appended goes to the last piece. -/
theorem pieces_append_right {sep : Char} {w : List Char} (h : sep ∉ w) (cs : List Char) :
    ∃ ps p, pieces sep cs = ps ++ [p] ∧ pieces sep (cs ++ w) = ps ++ [p ++ w] := by
  induction cs with
  | nil =>
    have hw := pieces_append_left h []
    rw [List.append_nil] at hw
    exact ⟨[], [], rfl, by rw [List.nil_append, hw]; simp [pieces]⟩
  | cons c cs ih =>
    obtain ⟨ps, p, hps, hpw⟩ := ih
    rw [List.cons_append, pieces_cons, pieces_cons, hps, hpw]
    by_cases hc : c = sep
    · exact ⟨[] :: ps, p, by simp [hc], by simp [hc]⟩
    · cases ps with
      | nil => exact ⟨[], c :: p, by simp [hc], by simp [hc]⟩
      | cons q qs => exact ⟨(c :: q) :: qs, p, by simp [hc], by simp [hc]⟩

theorem head?_pieces (sep : Char) (cs : List Char) :
    (pieces sep cs).head? = some (cs.takeWhile (· != sep)) := by
  induction cs with
  | nil => rfl
  | cons c cs ih =>
    rw [pieces_cons]
    by_cases hc : c = sep
    · simp [hc]
    · cases hp : pieces sep cs with
      | nil => exact absurd hp (pieces_ne_nil sep cs)
      | cons p ps =>
        rw [hp, List.head?_cons, Option.some.injEq] at ih
        simp [hc, ih]

theorem notMem_of_mem_pieces {sep : Char} {cs p : List Char} (h : p ∈ pieces sep cs) : sep ∉ p := by
  induction cs generalizing p with
  | nil =>
    rw [List.mem_singleton.mp h]
    exact List.not_mem_nil
  | cons c rest ih =>
    rw [pieces_cons] at h
    split at h
    · rcases List.mem_cons.mp h with rfl | h
      · exact List.not_mem_nil
      · exact ih h
    · rename_i hc
      cases hp : pieces sep rest with
      | nil => exact absurd hp (pieces_ne_nil sep rest)
      | cons q qs =>
        rw [hp, List.modifyHead_cons, List.mem_cons] at h
        rcases h with rfl | h
        · rw [List.mem_cons, not_or]
          exact ⟨fun he => hc (beq_iff_eq.mpr he.symm), ih (hp ▸ List.mem_cons_self)⟩
        · exact ih (hp ▸ List.mem_cons_of_mem q h)

theorem notMem_of_mem_splitOn {sep : Char} {s t : String} (h : t ∈ splitOn sep s) :
    sep ∉ t.toList := by
  obtain ⟨p, hp, rfl⟩ := List.mem_map.mp h
  rw [String.toList_ofList]
  exact notMem_of_mem_pieces hp

theorem exists_mem_pieces {c sep : Char} (hc : c ≠ sep) (cs : List Char) :
    (∃ p ∈ pieces sep cs, c ∈ p) ↔ c ∈ cs := by
  induction cs with
  | nil => simp [pieces]
  | cons d rest ih =>
    rw [pieces_cons, List.mem_cons, ← ih]
    cases hp : pieces sep rest with
    | nil => exact absurd hp (pieces_ne_nil sep rest)
    | cons p ps =>
      by_cases hd : d = sep
      · simp [hd, hc]
      · simp [hd, or_assoc]

theorem exists_mem_splitOn {c sep : Char} (hc : c ≠ sep) (s : String) :
    (∃ t ∈ splitOn sep s, c ∈ t.toList) ↔ c ∈ s.toList := by
  rw [← exists_mem_pieces hc, splitOn]
  simp

/-- The first piece ends at the first separator or with the text. -/
theorem head?_splitOn_eq_some_iff {sep : Char} {s first : String} :
    (splitOn sep s).head? = some first ↔ sep ∉ first.toList ∧
      ∃ rest, s = first ++ rest ∧ (rest = "" ∨ ∃ more, rest = String.singleton sep ++ more) := by
  rw [splitOn, List.head?_map, head?_pieces, Option.map_some, Option.some.injEq]
  constructor
  · rintro rfl
    refine ⟨fun h => ?_, .ofList (s.toList.dropWhile (· != sep)), ?_, ?_⟩
    · rw [String.toList_ofList] at h
      simpa using List.mem_takeWhile_imp h
    · rw [← String.ofList_append, List.takeWhile_append_dropWhile, String.ofList_toList]
    · cases hrest : s.toList.dropWhile (· != sep) with
      | nil => exact .inl rfl
      | cons c more =>
        have hc : c = sep := by
          simpa [hrest] using List.head?_dropWhile_not (· != sep) s.toList
        exact .inr ⟨.ofList more, by rw [hc, String.ofList_cons]⟩
  · rintro ⟨hfirst, rest, rfl, hrest⟩
    have hall : ∀ c ∈ first.toList, (c != sep) = true := by
      intro c hc
      rw [bne_iff_ne]
      rintro rfl
      exact hfirst hc
    have hstop : rest.toList.takeWhile (· != sep) = [] := by
      rcases hrest with rfl | ⟨more, rfl⟩ <;> simp
    rw [String.toList_append, List.takeWhile_append_of_pos hall, hstop, List.append_nil,
      String.ofList_toList]

theorem splitOn_intercalate {sep : Char} {ss : List String} (hne : ss ≠ [])
    (h : ∀ s ∈ ss, sep ∉ s.toList) :
    splitOn sep (String.intercalate (String.singleton sep) ss) = ss := by
  have hsep : ∀ cs ∈ ss.map String.toList, sep ∉ cs := List.forall_mem_map.mpr h
  have hnil : ss.map String.toList ≠ [] := fun he => hne (List.map_eq_nil_iff.mp he)
  rw [splitOn, pieces_eq_splitOn, String.toList_intercalate, String.toList_singleton,
    List.splitOn_intercalate sep hsep hnil, List.map_map]
  simp

theorem intercalate_splitOn (sep : Char) (s : String) :
    String.intercalate (String.singleton sep) (splitOn sep s) = s := by
  have hpieces : (splitOn sep s).map String.toList = pieces sep s.toList := by
    simp [splitOn, Function.comp_def]
  rw [← String.toList_inj, String.toList_intercalate, String.toList_singleton, hpieces,
    pieces_eq_splitOn, List.intercalate_splitOn]

/-! ## The first separator -/

theorem cutFirst?_append_cons {sep : Char} {a : List Char} (h : sep ∉ a) (b : List Char) :
    cutFirst? sep (a ++ sep :: b) = some (a, b) := by
  induction a with
  | nil => simp [cutFirst?]
  | cons c a ih =>
    rw [List.mem_cons, not_or] at h
    obtain ⟨hc, ha⟩ := h
    simp [cutFirst?, ih ha, Ne.symm hc]

theorem cutFirst?_eq_some_iff {sep : Char} {cs a b : List Char} :
    cutFirst? sep cs = some (a, b) ↔ cs = a ++ sep :: b ∧ sep ∉ a := by
  refine ⟨fun h => ?_, ?_⟩
  · induction cs generalizing a with
    | nil => cases h
    | cons c rest ih =>
      rw [cutFirst?] at h
      split at h
      · rename_i hc
        obtain ⟨rfl, rfl⟩ := Prod.mk.inj (Option.some.inj h)
        exact ⟨by rw [beq_iff_eq.mp hc, List.nil_append], List.not_mem_nil⟩
      · rename_i hc
        obtain ⟨⟨a', b'⟩, hrest, hab⟩ := Option.map_eq_some_iff.mp h
        obtain ⟨rfl, rfl⟩ := Prod.mk.inj hab
        obtain ⟨rfl, ha'⟩ := ih hrest
        refine ⟨rfl, ?_⟩
        rw [List.mem_cons, not_or]
        exact ⟨fun he => hc (beq_iff_eq.mpr he.symm), ha'⟩
  · rintro ⟨rfl, ha⟩
    exact cutFirst?_append_cons ha b

theorem cutFirst?_eq_none_iff {sep : Char} {cs : List Char} :
    cutFirst? sep cs = none ↔ sep ∉ cs := by
  induction cs with
  | nil => simp [cutFirst?]
  | cons c rest ih =>
    by_cases hc : c = sep
    · simp [cutFirst?, hc]
    · simp [cutFirst?, ih, hc, Ne.symm hc]

theorem splitFirst?_append {sep : Char} {a : String} (h : sep ∉ a.toList) (b : String) :
    splitFirst? sep (a ++ String.singleton sep ++ b) = some (a, b) := by
  simp [splitFirst?, cutFirst?_append_cons h]

theorem splitFirst?_eq_some_iff {sep : Char} {s a b : String} : splitFirst? sep s = some (a, b) ↔
    s = a ++ String.singleton sep ++ b ∧ sep ∉ a.toList := by
  constructor
  · intro h
    obtain ⟨⟨x, y⟩, hcut, hxy⟩ := Option.map_eq_some_iff.mp h
    obtain ⟨rfl, rfl⟩ := Prod.mk.inj hxy
    obtain ⟨hs, hx⟩ := cutFirst?_eq_some_iff.mp hcut
    refine ⟨?_, by rwa [String.toList_ofList]⟩
    rw [← String.toList_inj, hs]
    simp
  · rintro ⟨rfl, ha⟩
    exact splitFirst?_append ha b

theorem splitFirst?_eq_none_iff {sep : Char} {s : String} :
    splitFirst? sep s = none ↔ sep ∉ s.toList := by
  rw [splitFirst?, Option.map_eq_none_iff, cutFirst?_eq_none_iff]

/-! ## The last separator -/

theorem cutLast?_eq_none {sep : Char} {cs : List Char} (h : sep ∉ cs) : cutLast? sep cs = none := by
  induction cs with
  | nil => rfl
  | cons c rest ih =>
    rw [List.mem_cons, not_or] at h
    obtain ⟨hc, hrest⟩ := h
    simp [cutLast?, ih hrest, Ne.symm hc]

theorem cutLast?_append_cons {sep : Char} (a : List Char) {b : List Char} (h : sep ∉ b) :
    cutLast? sep (a ++ sep :: b) = some (a, b) := by
  induction a with
  | nil => simp [cutLast?, cutLast?_eq_none h]
  | cons c a ih => simp [cutLast?, ih]

theorem eq_of_cutLast? {sep : Char} {cs a b : List Char} (h : cutLast? sep cs = some (a, b)) :
    cs = a ++ sep :: b := by
  induction cs generalizing a with
  | nil => cases h
  | cons c rest ih =>
    simp only [cutLast?] at h
    split at h
    · rename_i a' b' hrest
      obtain ⟨rfl, rfl⟩ := Prod.mk.inj (Option.some.inj h)
      rw [ih hrest, List.cons_append]
    · split at h
      · rename_i hc
        obtain ⟨rfl, rfl⟩ := Prod.mk.inj (Option.some.inj h)
        rw [beq_iff_eq.mp hc, List.nil_append]
      · cases h

theorem cutLast?_eq_none_iff {sep : Char} {cs : List Char} : cutLast? sep cs = none ↔ sep ∉ cs := by
  refine ⟨fun h hmem => ?_, cutLast?_eq_none⟩
  induction cs with
  | nil => cases hmem
  | cons c rest ih =>
    simp only [cutLast?] at h
    split at h
    · cases h
    · rename_i hrest
      split at h
      · cases h
      · rename_i hc
        rcases List.mem_cons.mp hmem with rfl | hmem
        · simp at hc
        · exact ih hrest hmem

theorem notMem_of_cutLast? {sep : Char} {cs a b : List Char} (h : cutLast? sep cs = some (a, b)) :
    sep ∉ b := by
  induction cs generalizing a with
  | nil => cases h
  | cons c rest ih =>
    simp only [cutLast?] at h
    split at h
    · rename_i a' b' hrest
      obtain ⟨rfl, rfl⟩ := Prod.mk.inj (Option.some.inj h)
      exact ih hrest
    · rename_i hrest
      split at h
      · obtain ⟨rfl, rfl⟩ := Prod.mk.inj (Option.some.inj h)
        exact cutLast?_eq_none_iff.mp hrest
      · cases h

theorem splitLast?_append {sep : Char} (a : String) {b : String} (h : sep ∉ b.toList) :
    splitLast? sep (a ++ String.singleton sep ++ b) = some (a, b) := by
  simp [splitLast?, cutLast?_append_cons _ h]

theorem eq_of_splitLast? {sep : Char} {s a b : String} (h : splitLast? sep s = some (a, b)) :
    s.toList = a.toList ++ sep :: b.toList := by
  obtain ⟨⟨x, y⟩, hcut, hxy⟩ := Option.map_eq_some_iff.mp h
  obtain ⟨rfl, rfl⟩ := Prod.mk.inj hxy
  rw [eq_of_cutLast? hcut, String.toList_ofList, String.toList_ofList]

theorem splitLast?_eq_none_iff {sep : Char} {s : String} :
    splitLast? sep s = none ↔ sep ∉ s.toList := by
  rw [splitLast?, Option.map_eq_none_iff, cutLast?_eq_none_iff]

theorem notMem_of_splitLast? {sep : Char} {s a b : String} (h : splitLast? sep s = some (a, b)) :
    sep ∉ b.toList := by
  obtain ⟨⟨x, y⟩, hcut, hxy⟩ := Option.map_eq_some_iff.mp h
  obtain ⟨rfl, rfl⟩ := Prod.mk.inj hxy
  rw [String.toList_ofList]
  exact notMem_of_cutLast? hcut

/-! ## Beginnings and ends -/

theorem startsWith_iff {s start : String} : startsWith s start = true ↔ ∃ rest, s = start ++ rest := by
  rw [startsWith, List.isPrefixOf_iff_prefix]
  constructor
  · rintro ⟨cs, hcs⟩
    refine ⟨String.ofList cs, ?_⟩
    rw [← String.toList_inj, String.toList_append, String.toList_ofList, hcs]
  · rintro ⟨rest, rfl⟩
    exact ⟨rest.toList, String.toList_append.symm⟩

theorem occursIn_iff {needle cs : List Char} : occursIn needle cs = true ↔ needle <:+: cs := by
  induction cs with
  | nil => simp [occursIn]
  | cons c rest ih =>
    rw [occursIn, Bool.or_eq_true, List.isPrefixOf_iff_prefix, ih, List.infix_cons_iff]

theorem contains_iff {s needle : String} :
    contains s needle = true ↔ needle.toList <:+: s.toList := occursIn_iff

theorem dropEnd?_eq_some_iff {s ending start : String} :
    dropEnd? s ending = some start ↔ s = start ++ ending := by
  rw [dropEnd?, Option.map_eq_some_iff]
  constructor
  · rintro ⟨cs, hcs, rfl⟩
    rw [List.isSuffixOf?_eq_some_iff_append_eq] at hcs
    rw [← String.toList_inj, String.toList_append, String.toList_ofList, hcs]
  · rintro rfl
    exact ⟨start.toList, List.isSuffixOf?_eq_some_iff_append_eq.mpr (by simp), String.ofList_toList⟩

/-- Without the characters at the end, and those characters. -/
theorem exists_dropTrailing (c : Char) (s : String) :
    ∃ n, s.toList = (dropTrailing c s).toList ++ List.replicate n c := by
  refine ⟨(s.toList.rtakeWhile (· == c)).length, ?_⟩
  have hend : s.toList.rtakeWhile (· == c) =
      List.replicate (s.toList.rtakeWhile (· == c)).length c := by
    refine List.eq_replicate_iff.mpr ⟨rfl, fun x hx => ?_⟩
    simpa using List.mem_rtakeWhile_imp hx
  rw [← hend, dropTrailing, String.toList_ofList]
  exact (List.rdropWhile_append_rtakeWhile ..).symm

theorem dropTrailing_append (c : Char) (base : List Char) (n : Nat) :
    dropTrailing c (String.ofList (base ++ List.replicate n c)) =
      dropTrailing c (String.ofList base) := by
  induction n with
  | zero => rw [List.replicate_zero, List.append_nil]
  | succ n ih =>
    rw [← ih, List.replicate_succ', ← List.append_assoc, dropTrailing, dropTrailing]
    simp

/-- Two texts differ only in how often a character stands at their ends. -/
theorem dropTrailing_eq_iff {c : Char} {s t : String} :
    dropTrailing c s = dropTrailing c t ↔
      ∃ (base : List Char) (i j : Nat), s.toList = base ++ List.replicate i c ∧
        t.toList = base ++ List.replicate j c := by
  constructor
  · intro h
    obtain ⟨i, hi⟩ := exists_dropTrailing c s
    obtain ⟨j, hj⟩ := exists_dropTrailing c t
    exact ⟨(dropTrailing c s).toList, i, j, hi, by rw [h]; exact hj⟩
  · rintro ⟨base, i, j, hs, ht⟩
    rw [← String.ofList_toList (s := s), ← String.ofList_toList (s := t), hs, ht,
      dropTrailing_append, dropTrailing_append]

end DirectoryLogin.Text
