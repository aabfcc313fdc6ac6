import DirectoryLogin.Directory.Tree
import DirectoryLogin.Proofs.Login.Request

/-!
# Whom a login admits

A login that succeeds has checked a password, or it relies on a front end that was told to assert
names, and nothing in the modes, the order of the servers or the state of the store gets around
this.

* `Grounds`: what entitles a person to an account through a directory;
* `admission_sound`: a login that succeeds did so by a local password or on such grounds.
-/

namespace DirectoryLogin

open Settings (Authentication)
open Time (Instant)

/-- The server `d` settles a name by the entry `e`, the gate admits the entry, and the store `s'`
links the entry to the account of the outcome. -/
structure Grounds (r : Realm) (c : Authentication) (username : String) (password : Option String)
    (d : Directory) (e : Entry) (o : Outcome) (s' : Store) : Prop where
  candidate : d ∈ r.registry.candidates c
  settled : d.Settles username password e
  admitted : ∃ grants, Policy.evaluate c r.provider r.rules ⟨e, username, d.definition⟩ = .ok grants
  linked : ∃ l, s'.link? directoryModule (Identity.authname ⟨e, username, d.definition⟩) = some l ∧
    l.uid = o.account.uid

namespace LoginRequest

variable {r : Realm} {c : Authentication} {now : Instant} {s s' : Store} {i : Identity}
  {grants : Option (List String)} {o : Outcome}

/-- An approved login has grounds, wherever its identity comes from. -/
theorem Approved.grounds {q : LoginRequest} (h : Approved r c now s q i grants o s')
    {username : String} {password : Option String}
    (hi : ∃ d ∈ r.registry.candidates c, ∃ e, i = ⟨e, username, d.definition⟩ ∧
      d.Settles username password e) :
    ∃ d e, o.method = q.method d.sid ∧ Grounds r c username password d e o s' := by
  obtain ⟨d, hd, e, rfl, he⟩ := hi
  exact ⟨d, e, h.method, hd, he, ⟨grants, h.admitted⟩, h.ending.link_of_ok⟩

theorem identity?_password {name password : String}
    (h : (LoginRequest.password name password).identity? r c s = some i) :
    Text.trim name ≠ "" ∧ password ≠ "" ∧
      ∃ d ∈ r.registry.candidates c, ∃ e, i = ⟨e, Text.trim name, d.definition⟩ ∧
        d.Settles (Text.trim name) (some password) e := by
  obtain ⟨found, hfound, hi⟩ := identity?_eq_some h
  obtain ⟨hname, hpassword, hf⟩ := passwordSearch?_eq_some hfound
  rw [hf] at hi
  obtain ⟨d, hd, e, he, hs⟩ := Resolution.ofCredentials_ok hi
  rw [Text.trim_trim] at he hs
  exact ⟨hname, hpassword, d, hd, e, he, hs⟩

theorem identity?_singleSignOn {v : Visit}
    (h : (LoginRequest.singleSignOn v).identity? r c s = some i) :
    c.sso.enabled = true ∧ ∃ u, SingleSignOn.assertedUsername v c.sso = some u ∧
      ∃ d ∈ r.registry.candidates c, ∃ e, i = ⟨e, Text.trim u, d.definition⟩ ∧
        d.Settles (Text.trim u) none e := by
  obtain ⟨found, hfound, hi⟩ := identity?_eq_some h
  obtain ⟨he, u, hu, rfl⟩ := assertedSearch?_eq_some hfound
  exact ⟨he, u, hu, Resolution.ofAsserted_ok hi⟩

theorem acceptsPassword_eq_true {a : Account} {password : String}
    (h : a.acceptsPassword password = true) :
    ∃ hash, a.passHash = some hash ∧ passwordAccepted hash password = true := by
  unfold Account.acceptsPassword at h
  split at h
  · rename_i hash hh
    exact ⟨hash, hh, h⟩
  · cases h

/-- A front end is never asked for a password, nor is a directory on its behalf. -/
theorem singleSignOn_questions (r : Realm) (c : Authentication) (now : Instant) (s : Store)
    (v : Visit) :
    ∀ question ∈ ((LoginRequest.singleSignOn v).attempt r c now s).questions,
      question.isLookup = true := by
  cases hr : (LoginRequest.singleSignOn v).resolution? r c s with
  | none =>
    rw [attempt_questions_nil hr]
    simp
  | some found =>
    obtain ⟨-, u, -, rfl⟩ := assertedSearch?_eq_some hr
    rw [attempt_questions hr]
    exact Resolution.ofAsserted_questions r.registry c u

end LoginRequest

/-- A login that succeeds rests on the local password of the account that has the name, or a
directory vouches for the person, the gate admits the entry, and the account is the one linked to
it. A single sign-on needs the asserted name in place of the password. -/
theorem admission_sound (r : Realm) (c : Authentication) (now : Instant) (s : Store) :
    (∀ name password o, (login r c now name password s).result = .ok o →
      Text.trim name ≠ "" ∧ password ≠ "" ∧
        ((o.method = .localPassword ∧ ∃ a hash, s.accountByName (Text.trim name) = .ok (some a) ∧
            a.passHash = some hash ∧ passwordAccepted hash password = true ∧
            o.account = { a with lastLogin := some now }) ∨
          ∃ d e, o.method = .directory d.sid ∧
            Grounds r c (Text.trim name) (some password) d e o
              (login r c now name password s).store)) ∧
    ∀ v o, (ssoLogin r c now v s).result = .ok o →
      c.sso.enabled = true ∧ ∃ u, SingleSignOn.assertedUsername v c.sso = some u ∧
        (∃ d e, o.method = .singleSignOn d.sid ∧
          Grounds r c (Text.trim u) none d e o (ssoLogin r c now v s).store) ∧
        ∀ question ∈ (ssoLogin r c now v s).questions, question.isLookup = true := by
  simp only [← LoginRequest.attempt_password, ← LoginRequest.attempt_singleSignOn]
  constructor
  · intro name password o ho
    rcases LoginRequest.attempt_ok ho with ⟨a, ha⟩ | ⟨i, grants, happ⟩
    · obtain ⟨name', password', hq, hname, hpassword, hn, hacc⟩ := ha.given
      cases hq
      obtain ⟨hash, hhash, haccepted⟩ := LoginRequest.acceptsPassword_eq_true hacc
      refine ⟨hname, hpassword, Or.inl ?_⟩
      rw [ha.outcome, Store.accountByName_trim]
      exact ⟨rfl, a, hash, hn, hhash, haccepted, rfl⟩
    · obtain ⟨hname, hpassword, hi⟩ := LoginRequest.identity?_password happ.identified
      exact ⟨hname, hpassword, Or.inr (happ.grounds hi)⟩
  · intro v o ho
    rcases LoginRequest.attempt_ok ho with ⟨a, ha⟩ | ⟨i, grants, happ⟩
    · obtain ⟨name, password, hq, -⟩ := ha.given
      cases hq
    · obtain ⟨he, u, hu, hi⟩ := LoginRequest.identity?_singleSignOn happ.identified
      exact ⟨he, u, hu, happ.grounds hi, LoginRequest.singleSignOn_questions r c now s v⟩

/-! ## A sample site -/

namespace Sample

/-- A server that knows one person. -/
def tree : Tree :=
  .ofEntries (.preset "hogwarts" .openLdap "ldap://hogwarts.edu" "dc=hogwarts,dc=edu")
    [⟨⟨"cn=hpotter,ou=people,dc=hogwarts,dc=edu", "", [("uid", ["hpotter"])]⟩, "pass"⟩] false

/-- The server alone, with neither provider nor rules. -/
def realm : Realm := ⟨.ofList [tree.toDirectory], .none, []⟩

def settings : Authentication :=
  { Authentication.default with
    sids := ["hogwarts"]
    sso := { Settings.Sso.default with enabled := true } }

def now : Instant := ⟨1700000000, 0⟩

/-- The front end asserts the person. -/
def visit : Visit := ⟨[("REMOTE_USER", "hpotter")], "/", "localhost"⟩

end Sample

/-- Both ways in are open at the sample site, each on its grounds. -/
theorem sample_admitted :
    (∃ o d e,
      (login Sample.realm Sample.settings Sample.now "hpotter" "pass" .empty).result = .ok o ∧
      Grounds Sample.realm Sample.settings (Text.trim "hpotter") (some "pass") d e o
        (login Sample.realm Sample.settings Sample.now "hpotter" "pass" .empty).store) ∧
    ∃ u o d e,
      (ssoLogin Sample.realm Sample.settings Sample.now Sample.visit .empty).result = .ok o ∧
      Grounds Sample.realm Sample.settings (Text.trim u) none d e o
        (ssoLogin Sample.realm Sample.settings Sample.now Sample.visit .empty).store := by
  obtain ⟨hpassword, hasserted⟩ := admission_sound Sample.realm Sample.settings Sample.now .empty
  have hlogin : (login Sample.realm Sample.settings Sample.now "hpotter" "pass"
      .empty).result.toOption.map Outcome.method = some (.directory "hogwarts") := by
    decide +kernel
  have hsso : (ssoLogin Sample.realm Sample.settings Sample.now Sample.visit
      .empty).result.toOption.map Outcome.method = some (.singleSignOn "hogwarts") := by
    decide +kernel
  obtain ⟨o, ho, hm⟩ := Option.map_eq_some_iff.mp hlogin
  obtain ⟨o', ho', -⟩ := Option.map_eq_some_iff.mp hsso
  rw [toOption_eq_some_iff] at ho ho'
  constructor
  · obtain ⟨-, -, ⟨hlocal, -⟩ | ⟨d, e, -, hgrounds⟩⟩ := hpassword _ _ o ho
    · rw [hm] at hlocal
      cases hlocal
    · exact ⟨o, d, e, ho, hgrounds⟩
  · obtain ⟨-, u, -, ⟨d, e, -, hgrounds⟩, -⟩ := hasserted _ o' ho'
    exact ⟨u, o', d, e, ho', hgrounds⟩

end DirectoryLogin
