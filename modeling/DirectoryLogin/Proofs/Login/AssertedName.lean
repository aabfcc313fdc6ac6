import DirectoryLogin.Login.SingleSignOn
import DirectoryLogin.Proofs.Text.Cuts
import DirectoryLogin.Proofs.Text.LowerCase
import DirectoryLogin.Proofs.Text.Trimming
import Mathlib.Data.List.Nodup

/-!
# Whom the front end names

The front end asserts a name in one variable, or in another one that stands in for it. The name may
have a domain in front of it and a realm behind it, and white space anywhere around these.

* `Visit.raw?_eq_some_iff`: a variable is found by its letters, where no two variables share them;
* `stripDomain_eq_iff`: stripping takes a name apart into domain, user and realm;
* `trim_stripDomain_trim`: trimming before it changes no more than the white space around the user;
* `assertedValue_of_asserts`, `assertedValue_congr`: which variable it is that counts, and that the
  others do not;
* `assertedUsername_determined`: what holds of every asserted name.
-/

namespace DirectoryLogin

open Text (letters sameAscii sameAscii_iff isBlankText)

/-! ## Variables -/

namespace Visit

variable {v v' : Visit} {name value : String}

/-- No two variables have the same name, whatever the case of its letters. -/
def NamesApart (v : Visit) : Prop := (v.vars.map fun x => letters x.1).Nodup

instance (v : Visit) : Decidable v.NamesApart := inferInstanceAs (Decidable (List.Nodup _))

/-- The variable of the name, spelled in this way or another, has the value. -/
def Sets (v : Visit) (name value : String) : Prop :=
  ∃ x ∈ v.vars, Text.SameLetters x.1 name ∧ x.2 = value

instance (v : Visit) (name value : String) : Decidable (v.Sets name value) :=
  inferInstanceAs (Decidable (∃ x ∈ v.vars, Text.SameLetters x.1 name ∧ x.2 = value))

theorem NamesApart.sets_unique (h : v.NamesApart) {value' : String} (hs : v.Sets name value)
    (hs' : v.Sets name value') : value = value' := by
  obtain ⟨x, hx, hname, rfl⟩ := hs
  obtain ⟨y, hy, hname', rfl⟩ := hs'
  rw [List.inj_on_of_nodup_map h hx hy (hname.trans hname'.symm)]

theorem raw?_cases (v : Visit) (name : String) :
    (∃ value, v.Sets name value ∧ v.raw? name = some value) ∨
      (∀ value, ¬ v.Sets name value) ∧ v.raw? name = none := by
  unfold raw?
  cases hexact : v.vars.find? (·.1 == name) with
  | some x =>
    have hname : x.1 = name := by simpa using List.find?_some hexact
    exact .inl ⟨x.2, ⟨x, List.mem_of_find?_eq_some hexact, congrArg letters hname, rfl⟩, rfl⟩
  | none =>
    cases hany : v.vars.find? (sameAscii ·.1 name) with
    | some x =>
      have hname : Text.SameLetters x.1 name :=
        sameAscii_iff.mp (by simpa using List.find?_some hany)
      exact .inl ⟨x.2, ⟨x, List.mem_of_find?_eq_some hany, hname, rfl⟩, rfl⟩
    | none =>
      refine .inr ⟨?_, rfl⟩
      rintro value ⟨x, hx, hname, -⟩
      exact List.find?_eq_none.mp hany x hx (sameAscii_iff.mpr hname)

theorem raw?_eq_some_iff (h : v.NamesApart) : v.raw? name = some value ↔ v.Sets name value := by
  rcases v.raw?_cases name with ⟨found, hfound, hraw⟩ | ⟨hnone, hraw⟩
  · rw [hraw, Option.some.injEq]
    constructor
    · rintro rfl
      exact hfound
    · exact h.sets_unique hfound
  · rw [hraw]
    exact iff_of_false nofun (hnone value)

/-- A variable that has the same value in both visits is found alike. -/
theorem value?_congr (h : v.NamesApart) (h' : v'.NamesApart)
    (hsets : ∀ value, v.Sets name value ↔ v'.Sets name value) : v.value? name = v'.value? name := by
  have hraw : v.raw? name = v'.raw? name := by
    ext value
    rw [raw?_eq_some_iff h, raw?_eq_some_iff h']
    exact hsets value
  rw [value?, value?, hraw]

theorem value?_of_sets (h : v.NamesApart) (hs : v.Sets name value)
    (hvalue : isBlankText value = false) : v.value? name = some (Text.trim value) := by
  rw [value?, (raw?_eq_some_iff h).mpr hs, Option.bind_some]
  exact Text.nonBlank?_eq_trim hvalue

theorem value?_eq_none_iff (h : v.NamesApart) :
    v.value? name = none ↔ ∀ value, v.Sets name value → isBlankText value = true := by
  constructor
  · intro hnone value hs
    cases hvalue : isBlankText value with
    | true => rfl
    | false => cases hnone.symm.trans (value?_of_sets h hs hvalue)
  · intro hblank
    rcases v.raw?_cases name with ⟨value, hs, hraw⟩ | ⟨-, hraw⟩
    · rw [value?, hraw, Option.bind_some]
      exact Text.nonBlank?_eq_none (hblank value hs)
    · rw [value?, hraw, Option.bind_none]

end Visit

namespace SingleSignOn

open Settings (Sso)

/-! ## Domains and realms -/

/-- Nothing, or a text that ends in a backslash. -/
inductive IsDomain : String → Prop
  | none : IsDomain ""
  | named (domain : String) : IsDomain (domain ++ "\\")

/-- Nothing, or a text that begins with an `@`. -/
inductive IsRealm : String → Prop
  | none : IsRealm ""
  | named (realm : String) : IsRealm ("@" ++ realm)

/-- What follows the domain. -/
def afterDomain (name : String) : String :=
  match Text.splitLast? '\\' name with
  | some (_, rest) => rest
  | none => name

/-- What stands before the realm. -/
def beforeRealm (name : String) : String :=
  match Text.splitFirst? '@' name with
  | some (start, _) => start
  | none => name

theorem stripDomain_eq (name : String) : stripDomain name = beforeRealm (afterDomain name) := rfl

variable {name user domain realm : String}

theorem afterDomain_append (hdomain : IsDomain domain) (h : '\\' ∉ name.toList) :
    afterDomain (domain ++ name) = name := by
  unfold afterDomain
  cases hdomain with
  | none => rw [String.empty_append, Text.splitLast?_eq_none_iff.mpr h]
  | named domain =>
    have hsplit : Text.splitLast? '\\' (domain ++ "\\" ++ name) = some (domain, name) :=
      Text.splitLast?_append domain h
    rw [hsplit]

theorem exists_afterDomain (name : String) :
    ∃ domain, IsDomain domain ∧ name = domain ++ afterDomain name ∧
      '\\' ∉ (afterDomain name).toList := by
  unfold afterDomain
  cases hsplit : Text.splitLast? '\\' name with
  | none =>
    exact ⟨"", .none, String.empty_append.symm, Text.splitLast?_eq_none_iff.mp hsplit⟩
  | some parts =>
    obtain ⟨domain, rest⟩ := parts
    refine ⟨domain ++ "\\", .named domain, ?_, Text.notMem_of_splitLast? hsplit⟩
    rw [← String.toList_inj, Text.eq_of_splitLast? hsplit]
    simp

theorem beforeRealm_append (hrealm : IsRealm realm) (h : '@' ∉ user.toList) :
    beforeRealm (user ++ realm) = user := by
  unfold beforeRealm
  cases hrealm with
  | none => rw [String.append_empty, Text.splitFirst?_eq_none_iff.mpr h]
  | named realm =>
    have hsplit : Text.splitFirst? '@' (user ++ "@" ++ realm) = some (user, realm) :=
      Text.splitFirst?_append h realm
    rw [← String.append_assoc, hsplit]

theorem exists_beforeRealm (name : String) :
    ∃ realm, IsRealm realm ∧ name = beforeRealm name ++ realm ∧
      '@' ∉ (beforeRealm name).toList := by
  unfold beforeRealm
  cases hsplit : Text.splitFirst? '@' name with
  | none => exact ⟨"", .none, String.append_empty.symm, Text.splitFirst?_eq_none_iff.mp hsplit⟩
  | some parts =>
    obtain ⟨start, realm⟩ := parts
    obtain ⟨hname, hstart⟩ := Text.splitFirst?_eq_some_iff.mp hsplit
    refine ⟨"@" ++ realm, .named realm, ?_, hstart⟩
    rw [hname, String.append_assoc]
    rfl

/-- The name is that of the user, after a domain and before a realm. The last backslash ends the
domain, and the first `@` after it begins the realm. -/
def NamesUser (name user : String) : Prop :=
  ∃ domain realm, IsDomain domain ∧ IsRealm realm ∧ name = domain ++ (user ++ realm) ∧
    '\\' ∉ (user ++ realm).toList ∧ '@' ∉ user.toList

theorem stripDomain_eq_iff : stripDomain name = user ↔ NamesUser name user := by
  rw [stripDomain_eq]
  constructor
  · rintro rfl
    obtain ⟨domain, hdomain, hname, hback⟩ := exists_afterDomain name
    obtain ⟨realm, hrealm, hrest, hat⟩ := exists_beforeRealm (afterDomain name)
    refine ⟨domain, realm, hdomain, hrealm, ?_, ?_, hat⟩
    · rwa [← hrest]
    · rwa [← hrest]
  · rintro ⟨domain, realm, hdomain, hrealm, rfl, hback, hat⟩
    rw [afterDomain_append hdomain hback, beforeRealm_append hrealm hat]

theorem notMem_stripDomain (name : String) :
    '\\' ∉ (stripDomain name).toList ∧ '@' ∉ (stripDomain name).toList := by
  obtain ⟨domain, realm, -, -, -, hback, hat⟩ := stripDomain_eq_iff.mp (Eq.refl (stripDomain name))
  rw [String.toList_append, List.mem_append, not_or] at hback
  exact ⟨hback.1, hat⟩

/-! ## White space around a name -/

variable {before after : String}

/-- White space in front of a name goes to its domain or, where it has none, to the user. -/
theorem NamesUser.blank_append (h : NamesUser name user) (hbefore : isBlankText before = true) :
    ∃ blank, isBlankText blank = true ∧ NamesUser (before ++ name) (blank ++ user) := by
  obtain ⟨domain, realm, hdomain, hrealm, rfl, hback, hat⟩ := h
  cases hdomain with
  | none =>
    refine ⟨before, hbefore, "", realm, .none, hrealm, ?_, ?_, ?_⟩
    · simp [String.append_assoc]
    · have hnone := Text.notMem_of_isBlankText hbefore (c := '\\') (by decide)
      simpa [hnone] using hback
    · have hnone := Text.notMem_of_isBlankText hbefore (c := '@') (by decide)
      simpa [hnone] using hat
  | named domain =>
    refine ⟨"", rfl, before ++ domain ++ "\\", realm, .named _, hrealm, ?_, ?_, ?_⟩
    · simp [String.append_assoc]
    · simpa using hback
    · simpa using hat

/-- White space behind a name goes to its realm or, where it has none, to the user. -/
theorem NamesUser.append_blank (h : NamesUser name user) (hafter : isBlankText after = true) :
    ∃ blank, isBlankText blank = true ∧ NamesUser (name ++ after) (user ++ blank) := by
  obtain ⟨domain, realm, hdomain, hrealm, rfl, hback, hat⟩ := h
  have hnone := Text.notMem_of_isBlankText hafter (c := '\\') (by decide)
  cases hrealm with
  | none =>
    refine ⟨after, hafter, domain, "", hdomain, .none, ?_, ?_, ?_⟩
    · simp [String.append_assoc]
    · simpa [hnone] using hback
    · have hnone := Text.notMem_of_isBlankText hafter (c := '@') (by decide)
      simpa [hnone] using hat
  | named realm =>
    refine ⟨"", rfl, domain, "@" ++ (realm ++ after), hdomain, .named _, ?_, ?_, ?_⟩
    · simp [String.append_assoc]
    · simpa [hnone, and_assoc] using hback
    · simpa using hat

/-- Trimming a name first changes no more than the white space around the user. -/
theorem trim_stripDomain_trim (name : String) :
    Text.trim (stripDomain (Text.trim name)) = Text.trim (stripDomain name) := by
  obtain ⟨before, after, hbefore, hafter, hname⟩ := Text.exists_eq_append_trim name
  have hstripped := stripDomain_eq_iff.mp (Eq.refl (stripDomain (Text.trim name)))
  obtain ⟨left, hleft, hpadded⟩ := hstripped.blank_append hbefore
  obtain ⟨right, hright, hpadded⟩ := hpadded.append_blank hafter
  rw [← hname] at hpadded
  rw [stripDomain_eq_iff.mpr hpadded, Text.trim_append_blank hright, Text.trim_blank_append hleft]

/-! ## The variable that counts -/

/-- The name of the configured variable. -/
def header (c : Sso) : String := Text.trim c.remoteUserHeader

/-- The name of the variable that can stand in for it. -/
def redirect (c : Sso) : String := "REDIRECT_" ++ header c

/-- The configured variable is missing or blank. -/
def Silent (v : Visit) (c : Sso) : Prop :=
  ∀ value, v.Sets (header c) value → isBlankText value = true

/-- The front end asserts the value, in the configured variable or, where that is missing or blank,
under Kerberos in the one that stands in for it. -/
inductive Asserts (v : Visit) (c : Sso) (value : String) : Prop
  | configured (h : v.Sets (header c) value)
  | redirected (hk : c.implementation = .kerberos) (hsilent : Silent v c)
      (h : v.Sets (redirect c) value)

variable {v v' : Visit} {c : Sso} {value : String}

theorem assertedValue_of_asserts (hv : v.NamesApart) (hc : isBlankText c.remoteUserHeader = false)
    (hvalue : isBlankText value = false) (h : Asserts v c value) :
    assertedValue v c = some (Text.trim value) := by
  have hheader := Text.trim_ne_empty hc
  unfold assertedValue
  cases h with
  | configured h =>
    have hfound := Visit.value?_of_sets hv h hvalue
    rw [header] at hfound
    simp [hheader, hfound]
  | redirected hk hsilent h =>
    have hnone := (Visit.value?_eq_none_iff hv).mpr hsilent
    have hfound := Visit.value?_of_sets hv h hvalue
    rw [redirect, header] at hfound
    rw [header] at hnone
    simp [hheader, hnone, hk, hfound]

/-- Two visits agree on what single sign-on may look at: the configured variable and, under Kerberos
and where that one is missing or blank, the one that stands in for it. -/
structure Agree (v v' : Visit) (c : Sso) : Prop where
  configured : ∀ value, v.Sets (header c) value ↔ v'.Sets (header c) value
  redirected : c.implementation = .kerberos → Silent v c →
    ∀ value, v.Sets (redirect c) value ↔ v'.Sets (redirect c) value

theorem assertedValue_congr (hv : v.NamesApart) (hv' : v'.NamesApart) (h : Agree v v' c) :
    assertedValue v c = assertedValue v' c := by
  have hconfigured : v.value? (Text.trim c.remoteUserHeader) =
      v'.value? (Text.trim c.remoteUserHeader) := Visit.value?_congr hv hv' h.configured
  unfold assertedValue
  dsimp only
  rw [hconfigured]
  cases hfound : v'.value? (Text.trim c.remoteUserHeader) with
  | some value => rfl
  | none =>
    cases hk : c.implementation with
    | sspi => rfl
    | kerberos =>
      have hsilent : Silent v c := (Visit.value?_eq_none_iff hv).mp (hconfigured.trans hfound)
      have hredirected := Visit.value?_congr hv hv' (h.redirected hk hsilent)
      rw [redirect, header] at hredirected
      simp only [hredirected]

/-! ## Names -/

/-- The three forms in which a front end qualifies the name of a user. -/
inductive Qualified (user : String) : String → Prop
  | domain (domain : String) : Qualified user (domain ++ "\\" ++ user)
  | realm (realm : String) (h : '\\' ∉ realm.toList) : Qualified user (user ++ "@" ++ realm)
  | both (domain realm : String) (h : '\\' ∉ realm.toList) :
      Qualified user (domain ++ "\\" ++ user ++ "@" ++ realm)

/-- A qualified name is never blank, for it holds one of the two separators. -/
theorem Qualified.not_blank (h : Qualified user value) : isBlankText value = false := by
  by_contra hblank
  rw [Bool.not_eq_false] at hblank
  have hback := Text.notMem_of_isBlankText hblank (c := '\\') (by decide)
  have hat := Text.notMem_of_isBlankText hblank (c := '@') (by decide)
  cases h with
  | domain domain => exact hback (by simp)
  | realm realm h => exact hat (by simp)
  | both domain realm h => exact hat (by simp)

theorem Qualified.namesUser (h : Qualified user value) (hback : '\\' ∉ user.toList)
    (hat : '@' ∉ user.toList) : NamesUser value user := by
  cases h with
  | domain domain =>
    exact ⟨domain ++ "\\", "", .named domain, .none, by simp, by simpa using hback, hat⟩
  | realm realm h =>
    exact ⟨"", "@" ++ realm, .none, .named realm, by simp [String.append_assoc], by simp [hback, h],
      hat⟩
  | both domain realm h =>
    exact ⟨domain ++ "\\", "@" ++ realm, .named domain, .named realm,
      by simp [String.append_assoc], by simp [hback, h], hat⟩

theorem assertedUsername_of_asserts (hv : v.NamesApart)
    (hc : isBlankText c.remoteUserHeader = false) (hstrip : c.stripDomainName = true)
    (hback : '\\' ∉ user.toList) (hat : '@' ∉ user.toList) (huser : isBlankText user = false)
    (hq : Qualified user value) (h : Asserts v c value) :
    assertedUsername v c = some (Text.trim user) := by
  have hname : Text.trim (stripDomain (Text.trim value)) = Text.trim user := by
    rw [trim_stripDomain_trim, stripDomain_eq_iff.mpr (hq.namesUser hback hat)]
  rw [assertedUsername, assertedValue_of_asserts hv hc hq.not_blank h, Option.bind_some, if_pos hstrip]
  exact Text.nonBlank?_eq_some_iff.mpr ⟨⟨Text.trim_ne_empty huser, Text.trim_trim user⟩, hname⟩

theorem exists_of_assertedUsername (h : assertedUsername v c = some user) :
    ∃ value, Text.nonBlank? (if c.stripDomainName then stripDomain value else value) = some user := by
  obtain ⟨value, -, hvalue⟩ := Option.bind_eq_some_iff.mp h
  exact ⟨value, hvalue⟩

theorem tidy_of_assertedUsername (h : assertedUsername v c = some user) : Text.Tidy user := by
  obtain ⟨value, hvalue⟩ := exists_of_assertedUsername h
  exact Text.tidy_of_nonBlank? hvalue

theorem notMem_assertedUsername (hstrip : c.stripDomainName = true)
    (h : assertedUsername v c = some user) : '\\' ∉ user.toList ∧ '@' ∉ user.toList := by
  obtain ⟨value, hvalue⟩ := exists_of_assertedUsername h
  rw [if_pos hstrip] at hvalue
  obtain ⟨-, rfl⟩ := Text.nonBlank?_eq_some_iff.mp hvalue
  obtain ⟨hback, hat⟩ := notMem_stripDomain value
  exact ⟨fun hmem => hback (Text.mem_of_mem_trim hmem), fun hmem => hat (Text.mem_of_mem_trim hmem)⟩

/-- An asserted name is tidy and, where domains are stripped, has none of the two separators. A
qualified name then comes down to its user. Nothing counts but the configured variable and, under
Kerberos and where that is missing or blank, the one that stands in for it. -/
theorem assertedUsername_determined (hv : v.NamesApart)
    (hc : isBlankText c.remoteUserHeader = false) :
    (∀ n, assertedUsername v c = some n → Text.Tidy n ∧
      (c.stripDomainName = true → '\\' ∉ n.toList ∧ '@' ∉ n.toList)) ∧
    (c.stripDomainName = true → ∀ user value, '\\' ∉ user.toList → '@' ∉ user.toList →
      isBlankText user = false → Qualified user value → Asserts v c value →
        assertedUsername v c = some (Text.trim user)) ∧
    ∀ v' : Visit, v'.NamesApart → Agree v v' c → assertedUsername v c = assertedUsername v' c := by
  refine ⟨fun n hn => ⟨tidy_of_assertedUsername hn, fun hstrip => ?_⟩, ?_, ?_⟩
  · exact notMem_assertedUsername hstrip hn
  · intro hstrip user value hback hat huser hq h
    exact assertedUsername_of_asserts hv hc hstrip hback hat huser hq h
  · intro v' hv' h
    rw [assertedUsername, assertedUsername, assertedValue_congr hv hv' h]

end SingleSignOn

/-! ## A sample visit -/

open SingleSignOn

namespace Sample

/-- A realm with white space around it and a domain with an `@` in it. -/
def qualifiedVisit : Visit :=
  ⟨[("Remote_User", " a@b\\ hpotter @HOGWARTS "), ("REDIRECT_REMOTE_USER", "dmalfoy")], "/", ""⟩

/-- The same without the variable that stands in, and with one of another name. -/
def otherVisit : Visit :=
  ⟨[("X_REMOTE_USER", "dmalfoy"), ("REMOTE_USER", " a@b\\ hpotter @HOGWARTS ")], "/node", ""⟩

/-- Domains are stripped, under Kerberos. -/
def strippingSso : Settings.Sso :=
  { Settings.Sso.default with
    remoteUserHeader := " REMOTE_USER"
    stripDomainName := true
    implementation := .kerberos }

end Sample

theorem sample_asserts :
    Asserts Sample.qualifiedVisit Sample.strippingSso " a@b\\ hpotter @HOGWARTS " :=
  .configured (by decide +kernel)

theorem sample_agree : Agree Sample.qualifiedVisit Sample.otherVisit Sample.strippingSso where
  configured value := by
    have hheader : header Sample.strippingSso = "REMOTE_USER" := by decide
    have hsame : Text.SameLetters "Remote_User" "REMOTE_USER" ∧
        Text.SameLetters "REMOTE_USER" "REMOTE_USER" := by decide
    have hother : ¬ Text.SameLetters "REDIRECT_REMOTE_USER" "REMOTE_USER" ∧
        ¬ Text.SameLetters "X_REMOTE_USER" "REMOTE_USER" := by decide
    simp [Visit.Sets, Sample.qualifiedVisit, Sample.otherVisit, hheader, hsame, hother]
  redirected _ hsilent := by
    have hblank := hsilent " a@b\\ hpotter @HOGWARTS " (by decide +kernel)
    exact absurd hblank (by decide)

/-- The qualified name comes down to its user, and to the same one where the variable that stands in
for the configured one has gone. -/
theorem sample_determined :
    Sample.qualifiedVisit.NamesApart ∧
      isBlankText Sample.strippingSso.remoteUserHeader = false ∧
      assertedUsername Sample.qualifiedVisit Sample.strippingSso = some "hpotter" ∧
      assertedUsername Sample.otherVisit Sample.strippingSso = some "hpotter" := by
  have hapart : Sample.qualifiedVisit.NamesApart := by decide +kernel
  have hapart' : Sample.otherVisit.NamesApart := by decide +kernel
  have hheader : isBlankText Sample.strippingSso.remoteUserHeader = false := by decide
  obtain ⟨-, hqualified, hconfined⟩ := assertedUsername_determined hapart hheader
  have hname := hqualified rfl " hpotter " " a@b\\ hpotter @HOGWARTS " (by decide) (by decide)
    (by decide) (.both " a@b" "HOGWARTS " (by decide)) sample_asserts
  have htrim : Text.trim " hpotter " = "hpotter" := by decide
  rw [htrim] at hname
  refine ⟨hapart, hheader, hname, ?_⟩
  rw [← hconfined Sample.otherVisit hapart' sample_agree, hname]

end DirectoryLogin
