import DirectoryLogin.Proofs.Text.Cuts
import DirectoryLogin.Proofs.Text.LowerCase

/-!
# Lower-casing a part of a text

Full lower-casing asks for the neighbours of a capital sigma, ignorable characters aside. At an end
of a text nothing is there to be asked, but where the text is a part of a longer one, its neighbours
in that one are. So the part can be lower-cased in one way by itself and in another way in its place.

* `lowerWithin`: what becomes of a part of a text in its place;
* `ExposesSigma`: the neighbours of the part decide which form one of its capital sigmas takes;
* `contains_lower_iff`: a text is found in every text that holds it, both in lower case, just when
  it exposes no sigma.
-/

namespace DirectoryLogin.Text

/-- Lower-cases a part of a text, with what is before it in reverse and what is after it. -/
def lowerWithin (before after : List Char) : List Char → List Char
  | [] => []
  | c :: rest =>
    let image :=
      if c == 'Σ' then (if sigmaIsFinal before (rest ++ after) then ['ς'] else ['σ'])
      else lowerChar c
    image ++ lowerWithin (c :: before) after rest

/-- The form of a capital sigma hangs on what is beyond the text before it, in reverse, or beyond
the text after it. -/
def exposed (before after : List Char) : Bool :=
  meetsCasedLetter before && after.all isCaseIgnorable ||
    before.all isCaseIgnorable && !meetsCasedLetter after

/-- The form of a capital sigma of the text hangs on what is beyond the text. -/
def ExposesSigma (cs : List Char) : Prop :=
  ∃ before after, cs = before ++ 'Σ' :: after ∧ exposed before.reverse after = true

theorem not_exposesSigma_of_notMem {cs : List Char} (h : 'Σ' ∉ cs) : ¬ ExposesSigma cs := by
  rintro ⟨before, after, rfl, -⟩
  exact h (List.mem_append_right _ List.mem_cons_self)

variable {before before' after after' cs : List Char}

/-! ## Parts of a text -/

theorem lowerFrom_append (before cs after : List Char) :
    lowerFrom before (cs ++ after) =
      lowerWithin before after cs ++ lowerFrom (cs.reverse ++ before) after := by
  induction cs generalizing before with
  | nil => rfl
  | cons c rest ih =>
    rw [List.cons_append, lowerFrom, lowerWithin, ih, List.append_assoc, List.reverse_cons,
      List.append_assoc, List.singleton_append]

theorem lowerFrom_eq_lowerWithin (before cs : List Char) :
    lowerFrom before cs = lowerWithin before [] cs := by
  have h := lowerFrom_append before cs []
  rwa [List.append_nil, lowerFrom, List.append_nil] at h

/-- The text beyond a part is asked only if all of the part is ignorable. -/
theorem meetsCasedLetter_append (cs beyond : List Char) :
    meetsCasedLetter (cs ++ beyond) =
      if cs.all isCaseIgnorable then meetsCasedLetter beyond else meetsCasedLetter cs := by
  induction cs with
  | nil => rfl
  | cons c rest ih =>
    unfold meetsCasedLetter at ih ⊢
    cases hc : isCaseIgnorable c with
    | true => simpa [hc] using ih
    | false => simp [hc]

theorem meetsCasedLetter_of_all (h : cs.all isCaseIgnorable = true) :
    meetsCasedLetter cs = false := by
  have happend := meetsCasedLetter_append cs []
  rw [h, List.append_nil] at happend
  exact happend

theorem meetsCasedLetter_letter : meetsCasedLetter ['A'] = true := by
  have hignorable : isCaseIgnorable 'A' = false := (isCaseIgnorable_eq (by decide)).trans (by decide)
  have hcased : isCasedLetter 'A' = true := (isCasedLetter_eq (by decide)).trans (by decide)
  simp [meetsCasedLetter, hignorable, hcased]

theorem sigmaIsFinal_append (h : exposed before after = false) (x y : List Char) :
    sigmaIsFinal (before ++ x) (after ++ y) = sigmaIsFinal before after := by
  have hb : before.all isCaseIgnorable = true → meetsCasedLetter before = false :=
    meetsCasedLetter_of_all
  have ha : after.all isCaseIgnorable = true → meetsCasedLetter after = false :=
    meetsCasedLetter_of_all
  unfold exposed at h
  unfold sigmaIsFinal
  rw [meetsCasedLetter_append, meetsCasedLetter_append]
  grind

/-- The part comes out the same in two places in which all its capital sigmas do. -/
theorem lowerWithin_congr
    (h : ∀ x y, cs = x ++ 'Σ' :: y → sigmaIsFinal (x.reverse ++ before) (y ++ after) =
      sigmaIsFinal (x.reverse ++ before') (y ++ after')) :
    lowerWithin before after cs = lowerWithin before' after' cs := by
  induction cs generalizing before before' with
  | nil => rfl
  | cons c rest ih =>
    have hrest : lowerWithin (c :: before) after rest = lowerWithin (c :: before') after' rest :=
      ih fun x y hxy => by simpa using h (c :: x) y (by rw [hxy, List.cons_append])
    rw [lowerWithin, lowerWithin, hrest]
    by_cases hc : c = 'Σ'
    · have hfirst := h [] rest (by rw [hc, List.nil_append])
      simp only [List.reverse_nil, List.nil_append] at hfirst
      rw [hfirst]
    · simp [hc]

/-- What exposes no sigma is lower-cased in every place as it is by itself. -/
theorem lowerWithin_of_not_exposesSigma (h : ¬ ExposesSigma cs) (before after : List Char) :
    lowerWithin before after cs = lowerFrom [] cs := by
  rw [lowerFrom_eq_lowerWithin]
  refine lowerWithin_congr fun x y hxy => ?_
  have hhidden : exposed x.reverse y = false :=
    Bool.eq_false_iff.mpr fun he => h ⟨x, y, hxy, he⟩
  rw [List.append_nil, List.append_nil]
  exact sigmaIsFinal_append hhidden before after

/-! ## Counting the two forms -/

/-- How many capital sigmas of a part are final in its place. -/
def finals (before after : List Char) : List Char → Nat
  | [] => 0
  | c :: rest =>
    (if c == 'Σ' && sigmaIsFinal before (rest ++ after) then 1 else 0) +
      finals (c :: before) after rest

/-- What becomes of a character that is not a capital sigma. -/
def plainForm (c : Char) : List Char := if c == 'Σ' then [] else lowerChar c

theorem count_final (before after cs : List Char) :
    (lowerWithin before after cs).count 'ς' =
      finals before after cs + (cs.flatMap plainForm).count 'ς' := by
  induction cs generalizing before with
  | nil => rfl
  | cons c rest ih =>
    rw [lowerWithin, finals, List.flatMap_cons, List.count_append, List.count_append, ih]
    by_cases hc : c = 'Σ'
    · cases sigmaIsFinal before (rest ++ after) with
      | true => simp [hc, plainForm]; omega
      | false => simp [hc, plainForm]
    · simp [hc, plainForm]
      omega

theorem count_medial (before after cs : List Char) :
    (lowerWithin before after cs).count 'σ' + finals before after cs =
      cs.count 'Σ' + (cs.flatMap plainForm).count 'σ' := by
  induction cs generalizing before with
  | nil => rfl
  | cons c rest ih =>
    have hrest := ih (c :: before)
    rw [lowerWithin, finals, List.flatMap_cons, List.count_append, List.count_append,
      List.count_cons]
    by_cases hc : c = 'Σ'
    · cases sigmaIsFinal before (rest ++ after) with
      | true => simp [hc, plainForm] at hrest ⊢; omega
      | false => simp [hc, plainForm] at hrest ⊢; omega
    · simp [hc, plainForm]
      omega

/-- Every capital sigma of a part that is final in the first place is so in the second. -/
def FinalsKept (before after before' after' cs : List Char) : Prop :=
  ∀ x y, cs = x ++ 'Σ' :: y → sigmaIsFinal (x.reverse ++ before) (y ++ after) = true →
    sigmaIsFinal (x.reverse ++ before') (y ++ after') = true

theorem FinalsKept.tail {c : Char} {rest : List Char}
    (h : FinalsKept before after before' after' (c :: rest)) :
    FinalsKept (c :: before) after (c :: before') after' rest := fun x y hxy => by
  simpa using h (c :: x) y (by rw [hxy, List.cons_append])

theorem FinalsKept.head {c : Char} {rest : List Char}
    (h : FinalsKept before after before' after' (c :: rest)) :
    (if c == 'Σ' && sigmaIsFinal before (rest ++ after) then 1 else 0) ≤
      if c == 'Σ' && sigmaIsFinal before' (rest ++ after') then 1 else 0 := by
  by_cases hc : c = 'Σ'
  · have hfirst := h [] rest (by rw [hc, List.nil_append])
    simp only [List.reverse_nil, List.nil_append] at hfirst
    cases hf : sigmaIsFinal before (rest ++ after) with
    | true => simp [hfirst hf]
    | false => simp
  · simp [hc]

theorem FinalsKept.finals_le (h : FinalsKept before after before' after' cs) :
    finals before after cs ≤ finals before' after' cs := by
  induction cs generalizing before before' with
  | nil => exact Nat.le_refl 0
  | cons c rest ih => exact Nat.add_le_add h.head (ih h.tail)

theorem FinalsKept.finals_lt (h : FinalsKept before after before' after' cs) {x y : List Char}
    (hcs : cs = x ++ 'Σ' :: y) (hno : sigmaIsFinal (x.reverse ++ before) (y ++ after) = false)
    (hyes : sigmaIsFinal (x.reverse ++ before') (y ++ after') = true) :
    finals before after cs < finals before' after' cs := by
  induction x generalizing before before' cs with
  | nil =>
    subst hcs
    have hrest := h.tail.finals_le
    simp only [List.reverse_nil, List.nil_append] at hno hyes
    simp only [List.nil_append, finals, hno, hyes]
    simp
    omega
  | cons c x ih =>
    subst hcs
    have hrest := ih h.tail rfl (by simpa using hno) (by simpa using hyes)
    exact Nat.add_lt_add_of_le_of_lt h.head hrest

/-! ## A text that holds the part and does not show it -/

/-- With a letter after it, the part has fewer final sigmas. -/
theorem not_infix_before_letter {x y : List Char} (hb : meetsCasedLetter x.reverse = true)
    (ha : y.all isCaseIgnorable = true) :
    ¬ lowerFrom [] (x ++ 'Σ' :: y) <:+: lowerFrom [] (x ++ 'Σ' :: y ++ ['A']) := by
  intro hfound
  have hkept : FinalsKept [] ['A'] [] [] (x ++ 'Σ' :: y) := by
    intro u v _ hfinal
    simp only [sigmaIsFinal, List.append_nil, meetsCasedLetter_append, Bool.and_eq_true] at hfinal ⊢
    refine ⟨hfinal.1, ?_⟩
    cases hv : v.all isCaseIgnorable with
    | true => rw [meetsCasedLetter_of_all hv]; rfl
    | false => simpa [hv] using hfinal.2
  have hfewer := hkept.finals_lt rfl
    (by simp [sigmaIsFinal, meetsCasedLetter_append, meetsCasedLetter_letter, ha])
    (by simp [sigmaIsFinal, hb, meetsCasedLetter_of_all ha])
  have hcount := hfound.sublist.count_le 'ς'
  rw [lowerFrom_append [] (x ++ 'Σ' :: y), List.count_append,
    lowerFrom_eq_lowerWithin [] (x ++ 'Σ' :: y), count_final, count_final] at hcount
  have hletter : (lowerFrom ((x ++ 'Σ' :: y).reverse ++ []) ['A']).count 'ς' = 0 := by rfl
  omega

/-- With a letter before it, the part has more final sigmas. -/
theorem not_infix_after_letter {x y : List Char} (hb : x.reverse.all isCaseIgnorable = true)
    (ha : meetsCasedLetter y = false) :
    ¬ lowerFrom [] (x ++ 'Σ' :: y) <:+: lowerFrom [] ('A' :: (x ++ 'Σ' :: y)) := by
  intro hfound
  have hkept : FinalsKept [] [] ['A'] [] (x ++ 'Σ' :: y) := by
    intro u v _ hfinal
    simp only [sigmaIsFinal, List.append_nil, meetsCasedLetter_append, Bool.and_eq_true] at hfinal ⊢
    refine ⟨?_, hfinal.2⟩
    cases hu : u.reverse.all isCaseIgnorable with
    | true => rw [meetsCasedLetter_of_all hu] at hfinal; cases hfinal.1
    | false => simpa using hfinal.1
  have hmore := hkept.finals_lt rfl
    (by simp [sigmaIsFinal, meetsCasedLetter_of_all hb])
    (by simp only [sigmaIsFinal, meetsCasedLetter_append, meetsCasedLetter_letter, hb, ha,
          List.append_nil, if_true, Bool.not_false, Bool.and_true])
  have hcount := hfound.sublist.count_le 'σ'
  have hlower : lowerFrom [] ('A' :: (x ++ 'Σ' :: y)) =
      'a' :: lowerWithin ['A'] [] (x ++ 'Σ' :: y) := by
    rw [← lowerFrom_eq_lowerWithin]
    rfl
  rw [hlower, List.count_cons_of_ne (by decide), lowerFrom_eq_lowerWithin] at hcount
  have hself := count_medial [] [] (x ++ 'Σ' :: y)
  have hplace := count_medial ['A'] [] (x ++ 'Σ' :: y)
  omega

/-- A text is found in every text that holds it, both in lower case, just when it exposes no
capital sigma. -/
theorem contains_lower_iff (fragment : String) :
    (∀ s, contains s fragment = true → contains (lower s) (lower fragment) = true) ↔
      ¬ ExposesSigma fragment.toList := by
  simp only [contains_iff, lower, String.toList_ofList]
  constructor
  · rintro hall ⟨x, y, hxy, hexposed⟩
    simp only [exposed, Bool.or_eq_true, Bool.and_eq_true, Bool.not_eq_true'] at hexposed
    rcases hexposed with ⟨hb, ha⟩ | ⟨hb, ha⟩
    · have hfound := hall (String.ofList (fragment.toList ++ ['A']))
      rw [String.toList_ofList, hxy] at hfound
      exact not_infix_before_letter hb ha (hfound (List.infix_append [] _ ['A']))
    · have hfound := hall (String.ofList ('A' :: fragment.toList))
      rw [String.toList_ofList, hxy] at hfound
      exact not_infix_after_letter hb ha (hfound (List.infix_cons (List.infix_refl _)))
  · rintro hhidden s ⟨x, y, hs⟩
    rw [← hs, List.append_assoc, lowerFrom_append, lowerFrom_append, List.append_nil,
      lowerWithin_of_not_exposesSigma hhidden, ← List.append_assoc]
    exact List.infix_append _ _ _

end DirectoryLogin.Text
