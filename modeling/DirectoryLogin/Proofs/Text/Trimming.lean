import DirectoryLogin.Text.Blank
import Mathlib.Data.List.DropRight

/-!
# Trimming

* `trim_trim`: a trimmed text has no white space at its ends left, so trimming it again changes
  nothing. Names are trimmed at several places on their way through a login, and this is why it
  does not matter at how many;
* `trim_eq_self_iff`: trimming that changes a text makes it shorter;
* `trim_eq_empty_iff`: nothing is left of a text of white space only;
* `nonBlank?_eq_some_iff`: of any other text, a `Tidy` one is left.
-/

namespace DirectoryLogin.Text

theorem stripBoth_eq (p : Char → Bool) (cs : List Char) :
    stripBoth p cs = (cs.dropWhile p).rdropWhile p := rfl

/-- Cutting at the end exposes no new beginning. -/
theorem dropWhile_stripBoth (p : Char → Bool) (cs : List Char) :
    (stripBoth p cs).dropWhile p = stripBoth p cs := by
  rw [stripBoth_eq, List.dropWhile_eq_self_iff]
  intro hl
  have hpre := List.rdropWhile_prefix p (l := cs.dropWhile p)
  have hlen : 0 < (cs.dropWhile p).length := Nat.lt_of_lt_of_le hl hpre.length_le
  rw [hpre.getElem hl]
  exact List.dropWhile_get_zero_not p cs hlen

theorem stripBoth_stripBoth (p : Char → Bool) (cs : List Char) :
    stripBoth p (stripBoth p cs) = stripBoth p cs := by
  rw [stripBoth_eq p (stripBoth p cs), dropWhile_stripBoth, stripBoth_eq,
    List.rdropWhile_idempotent]

@[simp]
theorem trim_trim (s : String) : trim (trim s) = trim s := by
  simp only [trim, String.toList_ofList, stripBoth_stripBoth]

theorem stripBoth_isInfix (p : Char → Bool) (cs : List Char) : stripBoth p cs <:+: cs :=
  (List.rdropWhile_prefix p _).isInfix.trans (List.dropWhile_suffix p).isInfix

theorem stripBoth_append_left {p : Char → Bool} {w : List Char} (hw : ∀ c ∈ w, p c = true)
    (cs : List Char) : stripBoth p (w ++ cs) = stripBoth p cs := by
  rw [stripBoth, stripBoth, List.dropWhile_append_of_pos hw]

theorem stripBoth_append_right {p : Char → Bool} {w : List Char} (hw : ∀ c ∈ w, p c = true)
    (cs : List Char) : stripBoth p (cs ++ w) = stripBoth p cs := by
  have hw' : ∀ c ∈ w.reverse, p c = true := fun c hc => hw c (List.mem_reverse.mp hc)
  rw [stripBoth, stripBoth, List.dropWhile_append]
  split
  · rename_i hnil
    rw [List.isEmpty_iff.mp hnil, List.dropWhile_eq_nil_iff.mpr hw]
  · rw [List.reverse_append, List.dropWhile_append_of_pos hw']

/-- The ends that are stripped off. -/
theorem exists_stripBoth (p : Char → Bool) (cs : List Char) :
    ∃ before after, (∀ c ∈ before, p c = true) ∧ (∀ c ∈ after, p c = true) ∧
      cs = before ++ stripBoth p cs ++ after := by
  refine ⟨cs.takeWhile p, (cs.dropWhile p).rtakeWhile p, fun c => List.mem_takeWhile_imp,
    fun c => List.mem_rtakeWhile_imp, ?_⟩
  rw [List.append_assoc, stripBoth_eq, List.rdropWhile_append_rtakeWhile,
    List.takeWhile_append_dropWhile]

theorem stripBoth_eq_self_iff {p : Char → Bool} {cs : List Char} : stripBoth p cs = cs ↔
    (∀ c ∈ cs.head?, p c = false) ∧ ∀ c ∈ cs.getLast?, p c = false := by
  have hhead : cs.dropWhile p = cs ↔ ∀ c ∈ cs.head?, p c = false := by
    cases cs <;> simp
  have hlast : cs.rdropWhile p = cs ↔ ∀ c ∈ cs.getLast?, p c = false := by
    rw [List.rdropWhile_eq_self_iff]
    cases cs <;> simp [List.getLast?_eq_some_getLast]
  rw [← hhead, ← hlast]
  constructor
  · intro h
    have hdrop : cs.dropWhile p = cs := by rw [← h, dropWhile_stripBoth]
    rw [stripBoth_eq, hdrop] at h
    exact ⟨hdrop, h⟩
  · rintro ⟨hdrop, hrdrop⟩
    rw [stripBoth_eq, hdrop, hrdrop]

/-- The codes of white space. -/
def blankCodes : List Nat :=
  [0x9, 0xA, 0xB, 0xC, 0xD, 0x20, 0x85, 0xA0, 0x1680, 0x2000, 0x2001, 0x2002, 0x2003, 0x2004, 0x2005,
    0x2006, 0x2007, 0x2008, 0x2009, 0x200A, 0x2028, 0x2029, 0x202F, 0x205F, 0x3000]

theorem isBlank_iff {c : Char} : isBlank c = true ↔ c.toNat ∈ blankCodes := by
  simp only [isBlank, Bool.or_eq_true, Bool.and_eq_true, decide_eq_true_eq, beq_iff_eq, blankCodes,
    List.mem_cons, List.not_mem_nil, or_false]
  omega

theorem mem_of_isBlankText {w : String} (h : isBlankText w = true) :
    ∀ c ∈ w.toList, isBlank c = true := List.all_eq_true.mp h

theorem notMem_of_isBlankText {w : String} (hw : isBlankText w = true) {c : Char}
    (hc : isBlank c = false) : c ∉ w.toList := fun hmem => by
  rw [mem_of_isBlankText hw c hmem] at hc
  cases hc

theorem trim_blank_append {w : String} (h : isBlankText w = true) (s : String) :
    trim (w ++ s) = trim s := by
  rw [trim, trim, String.toList_append, stripBoth_append_left (mem_of_isBlankText h)]

theorem trim_append_blank {w : String} (h : isBlankText w = true) (s : String) :
    trim (s ++ w) = trim s := by
  rw [trim, trim, String.toList_append, stripBoth_append_right (mem_of_isBlankText h)]

theorem exists_eq_append_trim (s : String) : ∃ before after, isBlankText before = true ∧
    isBlankText after = true ∧ s = before ++ trim s ++ after := by
  obtain ⟨before, after, hbefore, hafter, h⟩ := exists_stripBoth isBlank s.toList
  refine ⟨.ofList before, .ofList after, ?_, ?_, ?_⟩
  · rwa [isBlankText, String.toList_ofList, List.all_eq_true]
  · rwa [isBlankText, String.toList_ofList, List.all_eq_true]
  · rw [trim, ← String.ofList_append, ← String.ofList_append, ← h, String.ofList_toList]

theorem mem_of_mem_trim {c : Char} {s : String} (h : c ∈ (trim s).toList) : c ∈ s.toList := by
  rw [trim, String.toList_ofList] at h
  exact (stripBoth_isInfix isBlank s.toList).subset h

theorem mem_trim_iff {c : Char} (hc : isBlank c = false) {s : String} :
    c ∈ (trim s).toList ↔ c ∈ s.toList := by
  obtain ⟨before, after, hbefore, hafter, hs⟩ := exists_eq_append_trim s
  refine ⟨mem_of_mem_trim, fun h => ?_⟩
  rw [hs, String.toList_append, String.toList_append, List.mem_append, List.mem_append] at h
  rcases h with (h | h) | h
  · exact absurd h (notMem_of_isBlankText hbefore hc)
  · exact h
  · exact absurd h (notMem_of_isBlankText hafter hc)

theorem trim_eq_self_iff {s : String} : trim s = s ↔ (trim s).utf8ByteSize = s.utf8ByteSize := by
  refine ⟨congrArg String.utf8ByteSize, fun h => ?_⟩
  obtain ⟨before, after, -, -, hs⟩ := exists_eq_append_trim s
  have hsize := congrArg String.utf8ByteSize hs
  rw [String.utf8ByteSize_append, String.utf8ByteSize_append] at hsize
  have hbefore : before = "" := String.utf8ByteSize_eq_zero_iff.mp (by omega)
  have hafter : after = "" := String.utf8ByteSize_eq_zero_iff.mp (by omega)
  rw [hbefore, hafter, String.empty_append, String.append_empty] at hs
  exact hs.symm

theorem trim_eq_empty_iff {s : String} : trim s = "" ↔ isBlankText s = true := by
  have hstrip : stripBoth isBlank s.toList = [] ↔ ∀ c ∈ s.toList, isBlank c = true := by
    rw [stripBoth_eq, List.rdropWhile_eq_nil_iff]
    constructor
    · intro h c hc
      rw [← List.takeWhile_append_dropWhile (p := isBlank) (l := s.toList), List.mem_append] at hc
      exact hc.elim List.mem_takeWhile_imp (h c)
    · intro h c hc
      exact h c ((List.dropWhile_suffix isBlank).subset hc)
  rw [trim, String.ofList_eq_empty_iff, hstrip, isBlankText, List.all_eq_true]

theorem trim_ne_empty {s : String} (h : isBlankText s = false) : trim s ≠ "" := by
  rw [Ne, trim_eq_empty_iff, h]
  exact Bool.false_ne_true

/-- The text is not empty, and trimming leaves it as it is. -/
structure Tidy (s : String) : Prop where
  ne_empty : s ≠ ""
  trimmed : trim s = s

theorem nonBlank?_eq_some_iff {s t : String} : nonBlank? s = some t ↔ Tidy t ∧ trim s = t := by
  simp only [nonBlank?]
  by_cases hs : trim s = ""
  · rw [if_pos (by simp [hs])]
    refine iff_of_false nofun ?_
    rintro ⟨htidy, rfl⟩
    exact htidy.ne_empty hs
  · rw [if_neg (by simpa using hs), Option.some.injEq]
    constructor
    · rintro rfl
      exact ⟨⟨hs, trim_trim s⟩, rfl⟩
    · exact fun h => h.2

theorem nonBlank?_eq_trim {s : String} (h : isBlankText s = false) : nonBlank? s = some (trim s) :=
  nonBlank?_eq_some_iff.mpr ⟨⟨trim_ne_empty h, trim_trim s⟩, rfl⟩

theorem nonBlank?_eq_none {s : String} (h : isBlankText s = true) : nonBlank? s = none := by
  simp [nonBlank?, trim_eq_empty_iff.mpr h]

theorem Tidy.nonBlank? {s : String} (h : Tidy s) : Text.nonBlank? s = some s :=
  nonBlank?_eq_some_iff.mpr ⟨h, h.trimmed⟩

theorem tidy_of_nonBlank? {s t : String} (h : nonBlank? s = some t) : Tidy t :=
  (nonBlank?_eq_some_iff.mp h).1

end DirectoryLogin.Text
