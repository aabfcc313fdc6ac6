import DirectoryLogin.Login.Attempt
import DirectoryLogin.Proofs.Failure.Results
import DirectoryLogin.Proofs.Login.Mapping
import DirectoryLogin.Proofs.Login.Resolution
import DirectoryLogin.Proofs.Text.Trimming

/-!
# Requests to log in

A password login and a single sign-on differ in how they reach the directories and agree in what
follows. A `LoginRequest` is either of them, so that what both do is said once.

* `login_blank`, `login_given`: a password login, told by what settles it;
* `resolution?`, `identity?`: the search in the directories that decides a request, if it comes to
  that, and the identity which the search finds;
* `Course` and `attempt_course`: a request is refused, decided by a local password, or decided by
  a search;
* `attempt_ok`: a login that succeeds does so by a local password or as `Approved`.
-/

namespace DirectoryLogin

open Directory (Question)
open Settings (Authentication)
open Time (Instant)

/-- A login as it is asked for, in one of the two ways. -/
inductive LoginRequest where
  | password (name password : String)
  | singleSignOn (v : Visit)

namespace Login

/-- The local password of the account settles the login: it decides, or it is tried and right. -/
def settledLocally (c : Authentication) (s : Store) (a : Account) (password : String) : Bool :=
  match localUse c s a with
  | .decides => true
  | .triedFirst => a.acceptsPassword password
  | .ignored => false

/-- All that the approval of a search can come to. -/
inductive Approval (r : Realm) (c : Authentication) (now : Instant) (found : Resolution)
    (method : String → LoginMethod) (s : Store) : Attempt → Prop
  | unresolved (f : Failure) :
      found.result = .error f → Approval r c now found method s ⟨.error f, s, found.questions⟩
  | turnedAway (i : Identity) (f : Failure) :
      found.result = .ok i → Policy.evaluate c r.provider r.rules i = .error f →
      Approval r c now found method s ⟨.error f, s, found.questions⟩
  | mapped (i : Identity) (grants : Option (List String)) (result : Except Failure Mapped)
      (s' : Store) :
      found.result = .ok i → Policy.evaluate c r.provider r.rules i = .ok grants →
      (Mapping.map (terms c now grants) i).run s = (result, s') →
      Approval r c now found method s
        ⟨result.map fun m => ⟨m.account, method i.sid, m.provisioned, []⟩, s', found.questions⟩

theorem approveResolved_approval (r : Realm) (c : Authentication) (now : Instant)
    (found : Resolution) (method : String → LoginMethod) (s : Store) :
    Approval r c now found method s (approveResolved r c now found method s) := by
  unfold approveResolved
  split
  · rename_i f hf
    exact .unresolved f hf
  · rename_i i hi
    simp only [approve]
    split
    · rename_i f hg
      exact .turnedAway i f hi hg
    · rename_i grants hg
      split
      · rename_i f s' hm
        exact .mapped i grants (.error f) s' hi hg hm
      · rename_i mapped s' hm
        exact .mapped i grants (.ok mapped) s' hi hg hm

end Login

section

variable {r : Realm} {c : Authentication} {now : Instant} {s : Store} {name password : String}

theorem blank_iff : ((Text.trim name).isEmpty || password.isEmpty) = true ↔
    ¬ (Text.trim name ≠ "" ∧ password ≠ "") := by
  rw [not_and_or, not_not, not_not]
  simp

/-- A login without a name or a password is refused before anything is looked up. -/
theorem login_blank (h : ¬ (Text.trim name ≠ "" ∧ password ≠ "")) :
    login r c now name password s = Login.refuse .invalidCredentials s := by
  simp only [login, blank_iff.mpr h, ↓reduceIte]

/-- Otherwise the account that has the name says whether its local password settles the login. -/
theorem login_given (h : Text.trim name ≠ "" ∧ password ≠ "") :
    login r c now name password s =
      match s.accountByName (Text.trim name) with
      | .error e => Login.refuse (.store e) s
      | .ok none => Login.withDirectoryPassword r c now (Text.trim name) password s
      | .ok (some a) =>
        if Login.settledLocally c s a password then Login.withLocalPassword now a password s
        else Login.withDirectoryPassword r c now (Text.trim name) password s := by
  simp only [login, blank_iff, not_not.mpr h, ↓reduceIte]
  cases s.accountByName (Text.trim name) with
  | error e => rfl
  | ok named =>
    cases named with
    | none => rfl
    | some a =>
      simp only [Login.settledLocally]
      obtain ⟨use, huse⟩ : ∃ use, Login.localUse c s a = use := ⟨_, rfl⟩
      cases use <;> simp only [huse, Bool.false_eq_true, ↓reduceIte]

end

namespace LoginRequest

/-- Carries the request out. -/
def attempt (r : Realm) (c : Authentication) (now : Instant) (s : Store) : LoginRequest → Attempt
  | .password name secret => login r c now name secret s
  | .singleSignOn v => ssoLogin r c now v s

theorem attempt_password (r : Realm) (c : Authentication) (now : Instant) (s : Store)
    (name secret : String) :
    (LoginRequest.password name secret).attempt r c now s = login r c now name secret s := rfl

theorem attempt_singleSignOn (r : Realm) (c : Authentication) (now : Instant) (s : Store)
    (v : Visit) : (LoginRequest.singleSignOn v).attempt r c now s = ssoLogin r c now v s := rfl

/-- How a person counts as recognized once a server has vouched for the request. -/
def method : LoginRequest → String → LoginMethod
  | .password .. => .directory
  | .singleSignOn _ => .singleSignOn

/-- Adds the notices that the settings want. -/
def finish (c : Authentication) : LoginRequest → Outcome → Outcome
  | .password .., o => o
  | .singleSignOn _, o => if c.sso.notifyAuthentication then o.withNotice else o

/-- The search that decides a password login, unless it is refused or settled locally. -/
def passwordSearch? (r : Realm) (c : Authentication) (s : Store) (name secret : String) :
    Option Resolution :=
  if (Text.trim name).isEmpty || secret.isEmpty then none
  else
    let found := Resolution.ofCredentials r.registry c (Text.trim name) secret
    match s.accountByName name with
    | .error _ => none
    | .ok none => some found
    | .ok (some a) => if Login.settledLocally c s a secret then none else some found

/-- The search that decides the request, if it comes to that. -/
def resolution? (r : Realm) (c : Authentication) (s : Store) : LoginRequest → Option Resolution
  | .password name secret => passwordSearch? r c s name secret
  | .singleSignOn v =>
    if c.sso.enabled then
      (SingleSignOn.assertedUsername v c.sso).map (Resolution.ofAsserted r.registry c)
    else none

/-- The identity by which the search decides the request. -/
def identity? (r : Realm) (c : Authentication) (s : Store) (q : LoginRequest) : Option Identity :=
  (q.resolution? r c s).bind fun found => found.result.toOption

/-- All that a request can come to. -/
inductive Course (r : Realm) (c : Authentication) (now : Instant) (s : Store) :
    LoginRequest → Attempt → Prop
  | refused (q : LoginRequest) (f : Failure) :
      q.resolution? r c s = none → Course r c now s q (Login.refuse f s)
  | locally (name secret : String) (a : Account) :
      Text.trim name ≠ "" → secret ≠ "" → s.accountByName name = .ok (some a) →
      passwordSearch? r c s name secret = none →
      Course r c now s (.password name secret) (Login.withLocalPassword now a secret s)
  | searched (q : LoginRequest) (found : Resolution) (t : Attempt) :
      q.resolution? r c s = some found → Login.Approval r c now found q.method s t →
      Course r c now s q { t with result := t.result.map (q.finish c) }

variable {r : Realm} {c : Authentication} {now : Instant} {s : Store} {q : LoginRequest}
  {o : Outcome} {i : Identity}

theorem passwordSearch?_eq_some {name secret : String} {found : Resolution}
    (h : passwordSearch? r c s name secret = some found) :
    Text.trim name ≠ "" ∧ secret ≠ "" ∧
      found = Resolution.ofCredentials r.registry c (Text.trim name) secret := by
  unfold passwordSearch? at h
  split at h
  · cases h
  · rename_i hb
    obtain ⟨hname, hsecret⟩ : Text.trim name ≠ "" ∧ secret ≠ "" := by simpa [not_or] using hb
    refine ⟨hname, hsecret, ?_⟩
    dsimp only at h
    split at h
    · cases h
    · exact (Option.some.inj h).symm
    · split at h
      · cases h
      · exact (Option.some.inj h).symm

/-- No search decides a login under the name of an account that bypasses the directory. -/
theorem passwordSearch?_bypassing {name : String} {a : Account} (secret : String)
    (hn : s.accountByName name = .ok (some a)) (hb : a.bypassesDirectory = true) :
    passwordSearch? r c s name secret = none := by
  simp [passwordSearch?, hn, Login.settledLocally, Login.localUse, hb]

theorem assertedSearch?_eq_some {v : Visit} {found : Resolution}
    (h : (LoginRequest.singleSignOn v).resolution? r c s = some found) :
    c.sso.enabled = true ∧ ∃ u, SingleSignOn.assertedUsername v c.sso = some u ∧
      found = Resolution.ofAsserted r.registry c u := by
  simp only [resolution?] at h
  split at h
  · rename_i he
    obtain ⟨u, hu, hfound⟩ := Option.map_eq_some_iff.mp h
    exact ⟨he, u, hu, hfound.symm⟩
  · cases h

/-! ## Courses -/

/-- What the search comes to stands, where there are no notices to add. -/
theorem Course.plain {found : Resolution} {t : Attempt} (hq : ∀ o, q.finish c o = o)
    (h : q.resolution? r c s = some found) (ht : Login.Approval r c now found q.method s t) :
    Course r c now s q t := by
  have hid : t.result.map (q.finish c) = t.result := by
    cases t.result with
    | error f => rfl
    | ok o => exact congrArg Except.ok (hq o)
  have hs := Course.searched q found t h ht
  rwa [hid] at hs

theorem login_course (r : Realm) (c : Authentication) (now : Instant) (s : Store)
    (name secret : String) :
    Course r c now s (.password name secret) (login r c now name secret s) := by
  by_cases hgiven : Text.trim name ≠ "" ∧ secret ≠ ""
  · have hsearch : passwordSearch? r c s name secret = _ :=
      if_neg (mt blank_iff.mp (not_not.mpr hgiven))
    have happroval : Login.Approval r c now _ _ s
        (Login.withDirectoryPassword r c now (Text.trim name) secret s) :=
      Login.approveResolved_approval ..
    rw [login_given hgiven, Store.accountByName_trim]
    cases hn : s.accountByName name with
    | error e =>
      rw [hn] at hsearch
      exact .refused _ _ hsearch
    | ok named =>
      rw [hn] at hsearch
      cases named with
      | none => exact .plain (fun _ => rfl) hsearch happroval
      | some a =>
        dsimp only at hsearch ⊢
        cases hsettled : Login.settledLocally c s a secret with
        | true =>
          simp only [hsettled, ↓reduceIte] at hsearch ⊢
          exact .locally name secret a hgiven.1 hgiven.2 hn hsearch
        | false =>
          simp only [hsettled, Bool.false_eq_true, ↓reduceIte] at hsearch ⊢
          exact .plain (fun _ => rfl) hsearch happroval
  · have hnone : passwordSearch? r c s name secret = none := by
      rw [passwordSearch?, if_pos (blank_iff.mpr hgiven)]
    rw [login_blank hgiven]
    exact .refused _ _ hnone

theorem ssoLogin_course (r : Realm) (c : Authentication) (now : Instant) (s : Store) (v : Visit) :
    Course r c now s (.singleSignOn v) (ssoLogin r c now v s) := by
  unfold ssoLogin
  cases he : c.sso.enabled with
  | false => exact .refused _ _ (by simp [resolution?, he])
  | true =>
    cases hu : SingleSignOn.assertedUsername v c.sso with
    | none => exact .refused _ _ (by simp [resolution?, he, hu])
    | some username =>
      have hsearch : resolution? r c s (.singleSignOn v) =
          some (Resolution.ofAsserted r.registry c username) := by
        simp [resolution?, he, hu]
      have happroval := Login.approveResolved_approval r c now
        (Resolution.ofAsserted r.registry c username) .singleSignOn s
      simp only [Bool.not_true, Bool.false_eq_true, ↓reduceIte]
      cases hw : c.sso.notifyAuthentication with
      | true =>
        have hf : finish c (.singleSignOn v) = Outcome.withNotice := by
          funext o
          simp only [finish, hw, ↓reduceIte]
        have hs := Course.searched (.singleSignOn v) _ _ hsearch happroval
        rwa [hf] at hs
      | false =>
        have hf : ∀ o, finish c (.singleSignOn v) o = o := by
          intro o
          simp only [finish, hw, Bool.false_eq_true, ↓reduceIte]
        simp only [Bool.false_eq_true, ↓reduceIte]
        exact .plain hf hsearch happroval

/-- Every request takes one of the courses. -/
theorem attempt_course (r : Realm) (c : Authentication) (now : Instant) (s : Store)
    (q : LoginRequest) : Course r c now s q (q.attempt r c now s) := by
  cases q with
  | password name secret => exact login_course r c now s name secret
  | singleSignOn v => exact ssoLogin_course r c now s v

/-- A request that comes to a search ends as the approval of what the search finds. -/
theorem attempt_searched {found : Resolution} (now : Instant)
    (h : q.resolution? r c s = some found) :
    ∃ t, Login.Approval r c now found q.method s t ∧
      q.attempt r c now s = { t with result := t.result.map (q.finish c) } := by
  have hc := attempt_course r c now s q
  generalize q.attempt r c now s = t at hc
  cases hc with
  | refused _ f hr =>
    rw [h] at hr
    cases hr
  | locally name secret a hname hsecret hn hr =>
    exact absurd (h.symm.trans hr) (Option.some_ne_none _)
  | searched _ found' t hr ht =>
    obtain rfl := Option.some.inj (h.symm.trans hr)
    exact ⟨t, ht, rfl⟩

/-- A search that fails decides the login. -/
theorem attempt_unresolved {found : Resolution} {f : Failure}
    (h : q.resolution? r c s = some found) (hf : found.result = .error f) :
    (q.attempt r c now s).result = .error f := by
  obtain ⟨t, ht, hattempt⟩ := attempt_searched now h
  rw [hattempt]
  cases ht with
  | unresolved f' hf' =>
    obtain rfl := Except.error.inj (hf.symm.trans hf')
    rfl
  | turnedAway i f' hi hg =>
    rw [hf] at hi
    cases hi
  | mapped i grants result s' hi hg hm =>
    rw [hf] at hi
    cases hi

/-! ## Logins that succeed -/

theorem identity?_eq_some (h : q.identity? r c s = some i) :
    ∃ found, q.resolution? r c s = some found ∧ found.result = .ok i := by
  obtain ⟨found, hfound, hi⟩ := Option.bind_eq_some_iff.mp h
  exact ⟨found, hfound, toOption_eq_some_iff.mp hi⟩

theorem method_ne_local (q : LoginRequest) (sid : String) : q.method sid ≠ .localPassword := by
  cases q with
  | password name secret => exact LoginMethod.noConfusion
  | singleSignOn v => exact LoginMethod.noConfusion

/-- A directory finds the identity `i`, the gate admits it with the `grants`, and the mapping gives
the account of the outcome and the store `s'`. -/
structure Approved (r : Realm) (c : Authentication) (now : Instant) (s : Store) (q : LoginRequest)
    (i : Identity) (grants : Option (List String)) (o : Outcome) (s' : Store) : Prop where
  identified : q.identity? r c s = some i
  admitted : Policy.evaluate c r.provider r.rules i = .ok grants
  mapped : (Mapping.map (Login.terms c now grants) i).run s = (.ok ⟨o.account, o.provisioned⟩, s')
  method : o.method = q.method i.sid

theorem Approved.ending {grants : Option (List String)} {s' : Store}
    (h : Approved r c now s q i grants o s') :
    Mapping.Ending (Login.terms c now grants) i s (.ok ⟨o.account, o.provisioned⟩) s' :=
  Mapping.ending_of_run h.mapped

/-- The name and the password are those of an active account of the site. -/
structure Local (now : Instant) (s : Store) (q : LoginRequest) (a : Account) (o : Outcome)
    (s' : Store) : Prop where
  given : ∃ name secret, q = .password name secret ∧ Text.trim name ≠ "" ∧ secret ≠ "" ∧
    s.accountByName name = .ok (some a) ∧ a.acceptsPassword secret = true
  active : a.status = .active
  outcome : o = ⟨{ a with lastLogin := some now }, .localPassword, false, []⟩
  touched : s' = s.touchLogin a.uid now

theorem withLocalPassword_ok {a : Account} {secret : String}
    (h : (Login.withLocalPassword now a secret s).result = .ok o) :
    a.acceptsPassword secret = true ∧ a.status = .active ∧
      o = ⟨{ a with lastLogin := some now }, .localPassword, false, []⟩ ∧
      (Login.withLocalPassword now a secret s).store = s.touchLogin a.uid now := by
  unfold Login.withLocalPassword at h ⊢
  cases ha : a.acceptsPassword secret with
  | false =>
    rw [ha] at h
    cases h
  | true =>
    cases hs : a.isActive with
    | false =>
      rw [ha, hs] at h
      cases h
    | true =>
      rw [ha, hs] at h
      cases h
      exact ⟨rfl, by simpa [Account.isActive] using hs, rfl, rfl⟩

/-- What `finish` adds does not concern the account. -/
theorem finish_eq (q : LoginRequest) (c : Authentication) (o : Outcome) :
    (q.finish c o).account = o.account ∧ (q.finish c o).method = o.method ∧
      (q.finish c o).provisioned = o.provisioned := by
  cases q with
  | password name secret => exact ⟨rfl, rfl, rfl⟩
  | singleSignOn v =>
    simp only [finish]
    split
    · exact ⟨rfl, rfl, rfl⟩
    · exact ⟨rfl, rfl, rfl⟩

/-- A login that succeeds does so by a local password or as approved. -/
theorem attempt_ok (h : (q.attempt r c now s).result = .ok o) :
    (∃ a, Local now s q a o (q.attempt r c now s).store) ∨
      ∃ i grants, Approved r c now s q i grants o (q.attempt r c now s).store := by
  have hc := attempt_course r c now s q
  generalize q.attempt r c now s = t at hc h
  cases hc with
  | refused _ f hr => cases h
  | locally name secret a hname hsecret hn hr =>
    obtain ⟨ha, hs, ho, ht⟩ := withLocalPassword_ok h
    exact Or.inl ⟨a, ⟨name, secret, rfl, hname, hsecret, hn, ha⟩, hs, ho, ht⟩
  | searched _ found t hr ht =>
    cases ht with
    | unresolved f hf => cases h
    | turnedAway i f hi hg => cases h
    | mapped i grants result s' hi hg hm =>
      cases result with
      | error f => cases h
      | ok m =>
        cases h
        obtain ⟨hacc, hmet, hpro⟩ := q.finish_eq c ⟨m.account, q.method i.sid, m.provisioned, []⟩
        refine Or.inr ⟨i, grants, ?_, hg, ?_, hmet⟩
        · simp [identity?, hr, hi, Except.toOption]
        · rw [hacc, hpro]
          exact hm

/-- An outcome by anything but a local password is approved. -/
theorem attempt_approved (h : (q.attempt r c now s).result = .ok o)
    (hm : o.method ≠ .localPassword) :
    ∃ i grants, Approved r c now s q i grants o (q.attempt r c now s).store := by
  rcases attempt_ok h with ⟨a, ha⟩ | happ
  · rw [ha.outcome] at hm
    exact absurd rfl hm
  · exact happ

/-- A directory finds the identity `i` and the gate admits it with the `grants`, so that the request
comes to a mapping. -/
structure Maps (r : Realm) (c : Authentication) (s : Store) (q : LoginRequest) (i : Identity)
    (grants : Option (List String)) : Prop where
  identified : q.identity? r c s = some i
  admitted : Policy.evaluate c r.provider r.rules i = .ok grants

/-- A request that comes to a mapping ends as the mapping does. -/
theorem Maps.attempt {grants : Option (List String)} (h : Maps r c s q i grants)
    {result : Except Failure Mapped} {s' : Store}
    (hm : (Mapping.map (Login.terms c now grants) i).run s = (result, s')) :
    (q.attempt r c now s).store = s' ∧ (q.attempt r c now s).result =
      result.map fun m => q.finish c ⟨m.account, q.method i.sid, m.provisioned, []⟩ := by
  obtain ⟨found, hfound, hresult⟩ := identity?_eq_some h.identified
  obtain ⟨t, ht, hattempt⟩ := attempt_searched now hfound
  rw [hattempt]
  cases ht with
  | unresolved f hf =>
    rw [hresult] at hf
    cases hf
  | turnedAway j f hj hf =>
    obtain rfl := Except.ok.inj (hresult.symm.trans hj)
    rw [h.admitted] at hf
    cases hf
  | mapped j grants' result' s'' hj hg' hm' =>
    obtain rfl := Except.ok.inj (hresult.symm.trans hj)
    obtain rfl := Except.ok.inj (h.admitted.symm.trans hg')
    rw [hm] at hm'
    cases hm'
    refine ⟨rfl, ?_⟩
    cases result with
    | error f => rfl
    | ok m => rfl

/-- An identity that is found, admitted and mapped is logged in. -/
theorem attempt_eq_ok {grants : Option (List String)} {m : Mapped} {s' : Store}
    (hi : q.identity? r c s = some i) (hg : Policy.evaluate c r.provider r.rules i = .ok grants)
    (hm : (Mapping.map (Login.terms c now grants) i).run s = (.ok m, s')) :
    ∃ o, (q.attempt r c now s).result = .ok o ∧ o.account = m.account ∧
      o.method ≠ .localPassword := by
  obtain ⟨-, ho⟩ := (Maps.mk hi hg).attempt hm
  obtain ⟨hacc, hmet, -⟩ := q.finish_eq c ⟨m.account, q.method i.sid, m.provisioned, []⟩
  exact ⟨_, ho, hacc, by rw [hmet]; exact q.method_ne_local i.sid⟩

/-! ## What is left behind -/

/-- A login leaves the store as it was, records the time of a local login, or leaves it as the
mapping of an identity does. -/
theorem attempt_store (r : Realm) (c : Authentication) (now : Instant) (s : Store)
    (q : LoginRequest) :
    (q.attempt r c now s).store = s ∨
      (∃ uid, (q.attempt r c now s).store = s.touchLogin uid now) ∨
      ∃ t i, (q.attempt r c now s).store = ((Mapping.map t i).run s).2 := by
  have hc := attempt_course r c now s q
  generalize q.attempt r c now s = t at hc
  cases hc with
  | refused _ f hr => exact Or.inl rfl
  | locally name secret a hname hsecret hn hr =>
    unfold Login.withLocalPassword
    split
    · exact Or.inl rfl
    · split
      · exact Or.inl rfl
      · exact Or.inr (Or.inl ⟨a.uid, rfl⟩)
  | searched _ found t hr ht =>
    cases ht with
    | unresolved f hf => exact Or.inl rfl
    | turnedAway i f hi hg => exact Or.inl rfl
    | mapped i grants result s' hi hg hm => exact Or.inr (Or.inr ⟨_, i, by rw [hm]⟩)

theorem withLocalPassword_error {a : Account} {secret : String} {f : Failure}
    (h : (Login.withLocalPassword now a secret s).result = .error f) :
    (Login.withLocalPassword now a secret s).store = s := by
  unfold Login.withLocalPassword at h ⊢
  split
  · rfl
  · split
    · rfl
    · rename_i hp hs
      rw [if_neg hp, if_neg hs] at h
      cases h

/-- A login that fails leaves the store as it was, unless it comes to a mapping, which fails. -/
theorem attempt_error {f : Failure} (h : (q.attempt r c now s).result = .error f) :
    (q.attempt r c now s).store = s ∨ ∃ i grants, Maps r c s q i grants ∧
      (Mapping.map (Login.terms c now grants) i).run s =
        (.error f, (q.attempt r c now s).store) := by
  have hc := attempt_course r c now s q
  generalize q.attempt r c now s = t at hc h
  cases hc with
  | refused _ f hr => exact Or.inl rfl
  | locally name secret a hname hsecret hn hr => exact Or.inl (withLocalPassword_error h)
  | searched _ found t hr ht =>
    cases ht with
    | unresolved f hf => exact Or.inl rfl
    | turnedAway i f hi hg => exact Or.inl rfl
    | mapped i grants result s' hi hg hm =>
      cases result with
      | ok m => cases h
      | error f' =>
        cases h
        refine Or.inr ⟨i, grants, ⟨?_, hg⟩, hm⟩
        simp [identity?, hr, hi, Except.toOption]

/-- Without a search, no directory is asked. -/
theorem attempt_questions_nil (h : q.resolution? r c s = none) :
    (q.attempt r c now s).questions = [] := by
  have hc := attempt_course r c now s q
  generalize q.attempt r c now s = t at hc
  cases hc with
  | refused _ f hr => rfl
  | locally name secret a hname hsecret hn hr =>
    unfold Login.withLocalPassword
    split
    · rfl
    · split
      · rfl
      · rfl
  | searched _ found t hr ht =>
    rw [h] at hr
    cases hr

/-- With a search, its questions are all that is asked. -/
theorem attempt_questions {found : Resolution} (h : q.resolution? r c s = some found) :
    (q.attempt r c now s).questions = found.questions := by
  obtain ⟨t, ht, hattempt⟩ := attempt_searched now h
  rw [hattempt]
  cases ht <;> rfl

end LoginRequest

end DirectoryLogin
