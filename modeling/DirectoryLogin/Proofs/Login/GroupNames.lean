import DirectoryLogin.Login.Authorization
import DirectoryLogin.Proofs.Text.Separators

/-!
# When a mapping names a group

* `components`: the components of a name, `normalize_eq_iff`: names are normalized to the same text
  when they have the same components;
* `Alike`: two spellings of a name that differ in white space around commas, or in letter case,
  `components_eq_of_alike`: they have the same components;
* `leadingCommonName?_eq_some_iff`, `leadingCommonName?_normalize`: the leading common name, and
  that it can be taken before the name is normalized;
* `isNamedBy_iff`: a mapping names a group as `Names` says, by its full name or by its leading
  common name.
-/

namespace DirectoryLogin.Groups

open Text

variable {caseSensitive : Bool} {name name' group group' : String}

/-! ## The components of a name -/

/-- The components of a name, without white space at their ends and in lower case unless case
counts. -/
def components (caseSensitive : Bool) (name : String) : List String :=
  (splitOn ',' name).map fun part => if caseSensitive then trim part else lower (trim part)

/-- The name without white space around its commas and at its ends. -/
def compact (name : String) : String := String.intercalate "," ((splitOn ',' name).map trim)

theorem splitOn_append_comma (a b : String) :
    splitOn ',' (a ++ "," ++ b) = splitOn ',' a ++ splitOn ',' b := by
  simp [splitOn, pieces_append_cons]

theorem map_trim_splitOn_append_blank (a : String) {w : String} (hw : isBlankText w = true) :
    (splitOn ',' (a ++ w)).map trim = (splitOn ',' a).map trim := by
  obtain ⟨ps, p, ha, haw⟩ :=
    pieces_append_right (notMem_of_isBlankText hw (c := ',') (by decide)) a.toList
  rw [splitOn, String.toList_append, haw, splitOn, ha]
  simp [trim_append_blank hw]

theorem map_trim_splitOn_blank_append {w : String} (hw : isBlankText w = true) (b : String) :
    (splitOn ',' (w ++ b)).map trim = (splitOn ',' b).map trim := by
  rw [splitOn, String.toList_append,
    pieces_append_left (notMem_of_isBlankText hw (c := ',') (by decide)), splitOn]
  cases pieces ',' b.toList with
  | nil => rfl
  | cons p ps => simp [trim_blank_append hw]

theorem splitOn_compact (name : String) :
    splitOn ',' (compact name) = (splitOn ',' name).map trim := by
  refine splitOn_intercalate ?_ ?_
  · simp [splitOn, pieces_ne_nil]
  · intro t ht
    obtain ⟨p, hp, rfl⟩ := List.mem_map.mp ht
    exact fun hc => notMem_of_mem_splitOn hp (mem_of_mem_trim hc)

theorem compact_of_notMem {name : String} (h : ',' ∉ name.toList) : compact name = trim name := by
  rw [compact, splitOn, pieces_eq_singleton h]
  simp

theorem splitOn_normalize (caseSensitive : Bool) (name : String) :
    splitOn ',' (normalize caseSensitive name) = components caseSensitive name := by
  cases caseSensitive with
  | true => exact splitOn_compact name
  | false =>
    have hcomma : isSeparator ',' = true := by decide
    have hsplit := splitOn_lower hcomma (compact name)
    rw [splitOn_compact, List.map_map] at hsplit
    exact hsplit

theorem normalize_eq_iff : normalize caseSensitive name = normalize caseSensitive name' ↔
    components caseSensitive name = components caseSensitive name' := by
  rw [← splitOn_normalize, ← splitOn_normalize]
  refine ⟨congrArg (splitOn ','), fun h => ?_⟩
  rw [← intercalate_splitOn ',' (normalize caseSensitive name), h, intercalate_splitOn]

theorem components_false (name : String) :
    components false name = (splitOn ',' (lower name)).map trim := by
  rw [splitOn_lower (by decide), List.map_map]
  exact List.map_congr_left fun part _ => (trim_lower part).symm

theorem mem_compact {c : Char} (hcomma : c ≠ ',') (hblank : isBlank c = false) (name : String) :
    c ∈ (compact name).toList ↔ c ∈ name.toList := by
  rw [← exists_mem_splitOn hcomma, splitOn_compact, ← exists_mem_splitOn hcomma name]
  simp [mem_trim_iff hblank]

theorem mem_normalize {c : Char} (hseparator : isSeparator c = true) (hcomma : c ≠ ',')
    (hblank : isBlank c = false) (caseSensitive : Bool) (name : String) :
    c ∈ (normalize caseSensitive name).toList ↔ c ∈ name.toList := by
  cases caseSensitive with
  | true => exact mem_compact hcomma hblank name
  | false => exact (mem_lower hseparator _).trans (mem_compact hcomma hblank name)

/-- Two spellings of a name. They can differ in the white space before and after each comma, and in
the case of the letters A to Z unless case counts. -/
inductive Alike (caseSensitive : Bool) : String → String → Prop
  | refl (name : String) : Alike caseSensitive name name
  | symm {a b : String} : Alike caseSensitive a b → Alike caseSensitive b a
  | trans {a b c : String} : Alike caseSensitive a b → Alike caseSensitive b c →
      Alike caseSensitive a c
  | spaceBefore (a b : String) {space : String} (hspace : isBlankText space = true) :
      Alike caseSensitive (a ++ space ++ "," ++ b) (a ++ "," ++ b)
  | spaceAfter (a b : String) {space : String} (hspace : isBlankText space = true) :
      Alike caseSensitive (a ++ "," ++ (space ++ b)) (a ++ "," ++ b)
  | letterCase {a b : String} (hcase : caseSensitive = false) (hsame : SameLetters a b) :
      Alike caseSensitive a b

theorem components_eq_of_alike (h : Alike caseSensitive name name') :
    components caseSensitive name = components caseSensitive name' := by
  have htrim : ∀ {a b : String}, (splitOn ',' a).map trim = (splitOn ',' b).map trim →
      components caseSensitive a = components caseSensitive b := by
    intro a b hab
    have hfold := congrArg (List.map fun part => if caseSensitive then part else lower part) hab
    rwa [List.map_map, List.map_map] at hfold
  induction h with
  | refl => rfl
  | symm _ ih => exact ih.symm
  | trans _ _ ih₁ ih₂ => exact ih₁.trans ih₂
  | spaceBefore a b hspace =>
    refine htrim ?_
    rw [splitOn_append_comma, splitOn_append_comma, List.map_append, List.map_append,
      map_trim_splitOn_append_blank a hspace]
  | spaceAfter a b hspace =>
    refine htrim ?_
    rw [splitOn_append_comma, splitOn_append_comma, List.map_append, List.map_append,
      map_trim_splitOn_blank_append hspace]
  | letterCase hcase hsame =>
    subst hcase
    rw [components_false, components_false, hsame.lower_eq]

/-! ## The leading common name -/

/-- The first component of a distinguished name is a common name with this value. -/
def HasLeadingCommonName (dn cn : String) : Prop :=
  ∃ key value rest, dn = key ++ "=" ++ value ++ rest ∧ '=' ∉ key.toList ∧ ',' ∉ key.toList ∧
    ',' ∉ value.toList ∧ (rest = "" ∨ ∃ more, rest = "," ++ more) ∧
    SameLetters (trim key) "cn" ∧ trim value = cn

/-- The value of a component, where it is a common name. -/
def commonName? (component : String) : Option String :=
  (splitFirst? '=' component).bind fun kv =>
    if sameAscii (trim kv.1) "cn" then some (trim kv.2) else none

theorem leadingCommonName?_eq (dn : String) :
    leadingCommonName? dn = (splitOn ',' dn).head?.bind commonName? := by
  unfold leadingCommonName?
  cases (splitOn ',' dn).head? with
  | none => rfl
  | some first =>
    cases hcut : splitFirst? '=' first with
    | none => simp [commonName?, hcut]
    | some kv => simp [commonName?, hcut]

theorem commonName?_eq_some_iff {component cn : String} : commonName? component = some cn ↔
    ∃ key value, component = key ++ "=" ++ value ∧ '=' ∉ key.toList ∧
      SameLetters (trim key) "cn" ∧ trim value = cn := by
  simp only [commonName?, Option.bind_eq_some_iff, Prod.exists, splitFirst?_eq_some_iff,
    Option.ite_none_right_eq_some, Option.some.injEq, and_assoc, sameAscii_iff]
  rfl

theorem leadingCommonName?_eq_some_iff {dn cn : String} :
    leadingCommonName? dn = some cn ↔ HasLeadingCommonName dn cn := by
  simp only [leadingCommonName?_eq, Option.bind_eq_some_iff, head?_splitOn_eq_some_iff,
    commonName?_eq_some_iff]
  constructor
  · rintro ⟨_, ⟨hcomma, rest, hdn, hrest⟩, key, value, rfl, hkey, hcn, hvalue⟩
    simp only [String.toList_append, List.mem_append, not_or] at hcomma
    exact ⟨key, value, rest, hdn, hkey, hcomma.1.1, hcomma.2, hrest, hcn, hvalue⟩
  · rintro ⟨key, value, rest, hdn, hkey, hkeyComma, hvalueComma, hrest, hcn, hvalue⟩
    refine ⟨_, ⟨?_, rest, hdn, hrest⟩, key, value, rfl, hkey, hcn, hvalue⟩
    simp [hkeyComma, hvalueComma]

theorem commonName?_trim (component : String) :
    commonName? (trim component) = commonName? component := by
  obtain ⟨before, after, hbefore, hafter, h⟩ := exists_eq_append_trim component
  have hequals : ∀ w : String, isBlankText w = true → '=' ∉ w.toList :=
    fun w hw => notMem_of_isBlankText hw (by decide)
  generalize trim component = middle at h ⊢
  subst h
  unfold commonName?
  cases hcut : splitFirst? '=' middle with
  | none =>
    rw [splitFirst?_eq_none_iff] at hcut
    rw [splitFirst?_eq_none_iff.mpr (by simp [hcut, hequals _ hbefore, hequals _ hafter])]
  | some kv =>
    obtain ⟨key, value⟩ := kv
    obtain ⟨rfl, hkey⟩ := splitFirst?_eq_some_iff.mp hcut
    have hlong : before ++ (key ++ String.singleton '=' ++ value) ++ after =
        (before ++ key) ++ String.singleton '=' ++ (value ++ after) := by
      simp only [String.append_assoc]
    rw [hlong, splitFirst?_append (by simp [hkey, hequals _ hbefore])]
    simp only [Option.bind_some, trim_blank_append hbefore, trim_append_blank hafter]

theorem commonName?_lower (component : String) :
    commonName? (lower component) = (commonName? component).map lower := by
  unfold commonName?
  rw [splitFirst?_lower (by decide)]
  cases splitFirst? '=' component with
  | none => rfl
  | some kv =>
    simp only [Option.map_some, Option.bind_some, Prod.map_fst, Prod.map_snd, trim_lower,
      sameAscii_lower_cn]
    split <;> rfl

theorem leadingCommonName?_compact (dn : String) :
    leadingCommonName? (compact dn) = leadingCommonName? dn := by
  rw [leadingCommonName?_eq, leadingCommonName?_eq, splitOn_compact, List.head?_map]
  cases (splitOn ',' dn).head? with
  | none => rfl
  | some first => simp [commonName?_trim]

theorem leadingCommonName?_lower (dn : String) :
    leadingCommonName? (lower dn) = (leadingCommonName? dn).map lower := by
  rw [leadingCommonName?_eq, leadingCommonName?_eq, splitOn_lower (by decide), List.head?_map]
  cases (splitOn ',' dn).head? with
  | none => rfl
  | some first => simp [commonName?_lower]

/-- The common name of a normalized name is the normalized common name. -/
theorem leadingCommonName?_normalize (caseSensitive : Bool) (dn : String) :
    leadingCommonName? (normalize caseSensitive dn) =
      (leadingCommonName? dn).map (normalize caseSensitive) := by
  have hcompact : (leadingCommonName? dn).map compact = leadingCommonName? dn := by
    cases hcn : leadingCommonName? dn with
    | none => rfl
    | some cn =>
      obtain ⟨key, value, rest, -, -, -, hcomma, -, -, rfl⟩ := leadingCommonName?_eq_some_iff.mp hcn
      rw [Option.map_some, compact_of_notMem fun h => hcomma (mem_of_mem_trim h), trim_trim]
  cases caseSensitive with
  | true => exact (leadingCommonName?_compact dn).trans hcompact.symm
  | false =>
    have hlower : normalize false = lower ∘ compact := rfl
    rw [hlower, Function.comp_apply, leadingCommonName?_lower, leadingCommonName?_compact,
      ← Option.map_map, hcompact]

/-! ## Naming a group -/

/-- The name of a mapping is that of the group, or without an equals sign its leading common
name. -/
def Names (caseSensitive : Bool) (name group : String) : Prop :=
  components caseSensitive group = components caseSensitive name ∨
    '=' ∉ name.toList ∧ ∃ cn, HasLeadingCommonName group cn ∧
      components caseSensitive cn = components caseSensitive name

theorem isNamedBy_iff : isNamedBy caseSensitive name group = true ↔
    Names caseSensitive name group := by
  have hequals : '=' ∈ (normalize caseSensitive name).toList ↔ '=' ∈ name.toList :=
    mem_normalize (by decide) (by decide) (by decide) caseSensitive name
  simp only [isNamedBy, Names, Bool.or_eq_true, Bool.and_eq_true, beq_iff_eq, Bool.not_eq_true',
    leadingCommonName?_normalize, Option.map_eq_some_iff, leadingCommonName?_eq_some_iff,
    List.contains_eq_mem, decide_eq_false_iff_not, hequals, normalize_eq_iff]

theorem isNamedBy_congr (hname : components caseSensitive name = components caseSensitive name')
    (hgroup : components caseSensitive group = components caseSensitive group') :
    isNamedBy caseSensitive name group = isNamedBy caseSensitive name' group' := by
  rw [isNamedBy, isNamedBy, normalize_eq_iff.mpr hname, normalize_eq_iff.mpr hgroup]

end DirectoryLogin.Groups
