import DirectoryLogin.Http.Router
import DirectoryLogin.Proofs.Account.Password
import DirectoryLogin.Proofs.Login.Admission
import DirectoryLogin.Proofs.Login.History

/-!
# The two checks of the site owner

The administration pages ask for the site owner's name and password and check them without a login.
That check and the login form are written apart, and look at different things.

* `OwnersCredentials` and `verifySiteOwner_eq_ok_iff`: what the pages accept;
* `OwnerTurnedAway`: the owner's credentials that the pages accept and the form does not;
* `LedToOwner`: the credentials by which the form reaches the owner's account through a directory;
* `checksAgree_iff`: the checks agree in all other cases. The second case needs a link that no
  operation of the service makes.
-/

namespace DirectoryLogin.Service

open Digest (Bytes)
open Settings (Authentication)
open Time (Instant)

variable {s : Service} {r : Realm} {now : Instant} {name password : String} {a : Account}

/-- The check for the pages accepts the credentials just when a login with them reaches the site
owner's account. -/
def ChecksAgree (s : Service) (r : Realm) (now : Instant) (name password : String) : Prop :=
  (∃ a, s.verifySiteOwner name password = .ok a) ↔
    ∃ o, (s.login r now name password).result = .ok o ∧ o.account.uid = siteOwnerUid

/-- The name and the password of the site owner, whose account is `a`. -/
structure OwnersCredentials (s : Service) (name password : String) (a : Account) : Prop where
  named : s.store.accountByName name = .ok (some a)
  owner : a.uid = siteOwnerUid
  accepted : a.acceptsPassword password = true

/-- The credentials are the site owner's, but the login form does not take an empty name or
password, and no login reaches a blocked account. -/
def OwnerTurnedAway (s : Service) (name password : String) : Prop :=
  ∃ a, OwnersCredentials s name password a ∧
    (Text.trim name = "" ∨ password = "" ∨ a.status = .blocked)

/-- A directory finds an identity for the credentials, the gate admits it, and it is linked to the
site owner's account, which is active. -/
def LedToOwner (s : Service) (r : Realm) (name password : String) : Prop :=
  ∃ i grants a, LoginRequest.Maps r s.live s.store (.password name password) i grants ∧
    s.store.accountByAuthname directoryModule i.authname = .ok (some a) ∧
    a.uid = siteOwnerUid ∧ a.status = .active

/-! ## The pages -/

theorem verifySiteOwner_eq_ok_iff :
    s.verifySiteOwner name password = .ok a ↔ OwnersCredentials s name password a := by
  unfold verifySiteOwner
  constructor
  · intro h
    split at h
    · cases h
    · cases h
    · rename_i b hn
      split at h
      · rename_i hb
        cases h
        obtain ⟨howner, haccepts⟩ := Bool.and_eq_true_iff.mp hb
        exact ⟨hn, by simpa [Account.isSiteOwner] using howner, haccepts⟩
      · cases h
  · rintro ⟨hn, hu, ha⟩
    simp [hn, Account.isSiteOwner, hu, ha]

theorem ownerOf_eq_some_iff {st : Http.Portal.State} {q : Http.Request} :
    Http.Portal.ownerOf st q = some a ↔ ∃ name password,
      q.basicCredentials = some (name, password) ∧
        OwnersCredentials st.service name password a := by
  unfold Http.Portal.ownerOf
  constructor
  · intro h
    split at h
    · rename_i name password hq
      exact ⟨name, password, hq, verifySiteOwner_eq_ok_iff.mp (toOption_eq_some_iff.mp h)⟩
    · cases h
  · rintro ⟨name, password, hq, hcred⟩
    rw [hq]
    exact toOption_eq_some_iff.mpr (verifySiteOwner_eq_ok_iff.mpr hcred)

/-! ## The login form -/

/-- An account that bypasses the directory is logged in by its local password alone. -/
theorem login_bypassing (hname : Text.trim name ≠ "") (hpassword : password ≠ "")
    (hn : s.store.accountByName name = .ok (some a)) (hb : a.bypassesDirectory = true) :
    s.login r now name password = Login.withLocalPassword now a password s.store := by
  simp [login, DirectoryLogin.login, hname, hpassword, hn, Login.localUse, hb]

/-- No directory is asked about the owner. -/
theorem OwnersCredentials.identity?_eq_none (h : OwnersCredentials s name password a) (r : Realm) :
    (LoginRequest.password name password).identity? r s.live s.store = none := by
  have hnone : LoginRequest.passwordSearch? r s.live s.store name password = none :=
    LoginRequest.passwordSearch?_bypassing password h.named (Account.bypasses_of_siteOwner h.owner)
  simp only [LoginRequest.identity?, LoginRequest.resolution?, hnone, Option.bind_none]

/-- When the owner's credentials log in. -/
theorem OwnersCredentials.login_iff (h : OwnersCredentials s name password a) (r : Realm)
    (now : Instant) :
    (∃ o, (s.login r now name password).result = .ok o ∧ o.account.uid = siteOwnerUid) ↔
      Text.trim name ≠ "" ∧ password ≠ "" ∧ a.status = .active := by
  constructor
  · rintro ⟨o, ho, -⟩
    rcases LoginRequest.attempt_ok (q := .password name password) ho with
      ⟨b, hlocal⟩ | ⟨i, grants, happ⟩
    · obtain ⟨_, _, hq, hname, hpassword, hn, -⟩ := hlocal.given
      cases hq
      cases h.named.symm.trans hn
      exact ⟨hname, hpassword, hlocal.active⟩
    · cases (h.identity?_eq_none r).symm.trans happ.identified
  · rintro ⟨hname, hpassword, hactive⟩
    rw [login_bypassing hname hpassword h.named (Account.bypasses_of_siteOwner h.owner)]
    refine ⟨⟨{ a with lastLogin := some now }, .localPassword, false, []⟩, ?_, h.owner⟩
    simp [Login.withLocalPassword, h.accepted, Account.isActive, hactive]

theorem LedToOwner.login_ok (h : LedToOwner s r name password) (now : Instant) :
    ∃ o, (s.login r now name password).result = .ok o ∧ o.account.uid = siteOwnerUid := by
  obtain ⟨i, grants, a, hmaps, hl, hu, hs⟩ := h
  obtain ⟨o, ho, hacc, -⟩ := LoginRequest.attempt_eq_ok hmaps.identified hmaps.admitted
    (Mapping.run_map_linked (t := Login.terms s.live now grants) hl hs)
  exact ⟨o, ho, by rw [hacc]; exact hu⟩

theorem LedToOwner.not_credentials (h : LedToOwner s r name password) :
    ¬ OwnersCredentials s name password a := by
  intro hcred
  obtain ⟨i, grants, -, hmaps, -⟩ := h
  cases (hcred.identity?_eq_none r).symm.trans hmaps.identified

/-- Of all that a mapping can come to, only a link leads to the owner's account. -/
theorem ledToOwner_of_approved (h : s.store.WellFormed) {i : Identity}
    {grants : Option (List String)} {o : Outcome} {s' : Store}
    (happ : LoginRequest.Approved r s.live now s.store (.password name password) i grants o s')
    (hu : o.account.uid = siteOwnerUid) : LedToOwner s r name password := by
  have hend := happ.ending
  obtain ⟨account, method, provisioned, messages⟩ := o
  cases hend with
  | linked b hl hs => exact ⟨i, grants, b, ⟨happ.identified, happ.admitted⟩, hl, hu, hs⟩
  | associated b hb hl hs =>
    have hb' : b.bypassesDirectory = true := Account.bypasses_of_siteOwner hu
    cases hb'.symm.trans hb.open_
  | provisioned hc hn hl =>
    have := h.lastUid_ge
    have hnew : s.store.lastUid + 1 = siteOwnerUid := hu
    omega

theorem not_ledToOwner (h : ∀ m ∈ s.store.authmaps, m.uid ≠ siteOwnerUid) :
    ¬ LedToOwner s r name password := by
  rintro ⟨i, grants, a, -, hl, hu, -⟩
  obtain ⟨m, hm, -, -, hmu⟩ := Store.accountByAuthname_eq_some hl
  exact h m (Store.link?_eq_some hm).1 (hmu.symm.trans hu)

/-! ## Both -/

theorem not_checksAgree_of_turnedAway (h : OwnerTurnedAway s name password) (r : Realm)
    (now : Instant) : ¬ ChecksAgree s r now name password := by
  intro hagree
  obtain ⟨a, hcred, hreason⟩ := h
  have hlogin := hagree.mp ⟨a, verifySiteOwner_eq_ok_iff.mpr hcred⟩
  obtain ⟨hname, hpassword, hactive⟩ := (hcred.login_iff r now).mp hlogin
  rcases hreason with hn | hp | hb
  · exact hname hn
  · exact hpassword hp
  · cases hactive.symm.trans hb

theorem not_checksAgree_of_led (h : LedToOwner s r name password) (now : Instant) :
    ¬ ChecksAgree s r now name password := by
  intro hagree
  obtain ⟨a, ha⟩ := hagree.mpr (h.login_ok now)
  exact h.not_credentials (verifySiteOwner_eq_ok_iff.mp ha)

theorem checksAgree_iff_of_wellFormed (h : s.store.WellFormed) :
    ChecksAgree s r now name password ↔
      ¬ OwnerTurnedAway s name password ∧ ¬ LedToOwner s r name password := by
  refine ⟨fun hagree => ⟨fun haway => not_checksAgree_of_turnedAway haway r now hagree,
    fun hled => not_checksAgree_of_led hled now hagree⟩, ?_⟩
  rintro ⟨haway, hled⟩
  constructor
  · rintro ⟨a, ha⟩
    have hcred := verifySiteOwner_eq_ok_iff.mp ha
    refine (hcred.login_iff r now).mpr ⟨fun hn => haway ⟨a, hcred, .inl hn⟩,
      fun hp => haway ⟨a, hcred, .inr (.inl hp)⟩, ?_⟩
    cases hs : a.status with
    | active => rfl
    | blocked => exact absurd ⟨a, hcred, .inr (.inr hs)⟩ haway
  · rintro ⟨o, ho, hu⟩
    rcases LoginRequest.attempt_ok (q := .password name password) ho with
      ⟨a, hlocal⟩ | ⟨i, grants, happ⟩
    · obtain ⟨_, _, hq, -, -, hn, haccepts⟩ := hlocal.given
      cases hq
      rw [hlocal.outcome] at hu
      exact ⟨a, verifySiteOwner_eq_ok_iff.mpr ⟨hn, hu, haccepts⟩⟩
    · exact absurd (ledToOwner_of_approved h happ hu) hled

/-- The two checks agree just when the owner is not turned away and no link leads to the owner. In
a history of the service no link does. -/
theorem checksAgree_iff (r : Realm) (now : Instant) (name password : String) :
    (∀ s, Reachable s → (ChecksAgree s r now name password ↔
      ¬ OwnerTurnedAway s name password ∧ ¬ LedToOwner s r name password)) ∧
    ∀ c ts, (ChecksAgree ((start c).after ts) r now name password ↔
      ¬ OwnerTurnedAway ((start c).after ts) name password) := by
  refine ⟨fun s hs => checksAgree_iff_of_wellFormed hs.wellFormed, fun c ts => ?_⟩
  have hlinked := after_wellLinked c ts
  rw [checksAgree_iff_of_wellFormed hlinked.wellFormed]
  exact and_iff_left (not_ledToOwner hlinked.uid_ne)

/-! ## A new owner -/

theorem acceptsPassword_of_hashOf {salt : Bytes} (h : a.passHash = some (hashOf salt password))
    (hs : PasswordHash.Storable salt) : a.acceptsPassword password = true := by
  rw [Account.acceptsPassword, h]
  exact PasswordHash.passwordAccepted_ofPassword hs password

/-- The account that is made for the site owner. -/
def ownerRow (now : Instant) (salt : Bytes) (name : String) (mail : Option String)
    (password : String) : Account :=
  Store.NewAccount.row (newLocal name mail (some (hashOf salt password)) false) siteOwnerUid false
    now

/-- The pages accept the password that a new owner is given, be it empty. -/
theorem ownersCredentials_of_new {salt : Bytes} (mail : Option String)
    (hnew : ∀ a ∈ s.store.accounts, a.uid ≠ siteOwnerUid) (hfree : s.store.nameTaken name = false)
    (hname : Text.trim name = name) (hnow : Time.fourDigitYear now = true)
    (hs : PasswordHash.Storable salt) :
    OwnersCredentials (s.ensureSiteOwner now salt name mail (some password)).2 name password
      (ownerRow now salt name mail password) where
  named := by
    have hstore : (s.ensureSiteOwner now salt name mail (some password)).2.store =
        s.store.addOwner (ownerRow now salt name mail password) :=
      Store.ensureSiteOwner_new hnew hfree now
    rw [hstore]
    exact Store.accountByName_addOwner hname (Store.readAccount_row _ _ now hnow)
  owner := rfl
  accepted := acceptsPassword_of_hashOf rfl hs

/-- The pages do not look at the status of the account. -/
theorem OwnersCredentials.setStatus (h : OwnersCredentials s name password a)
    (status : Account.Status) :
    OwnersCredentials { s with store := s.store.setStatus siteOwnerUid status } name password
      { a with status } where
  named := by
    rw [← h.owner]
    exact Store.accountByName_setStatus h.named status
  owner := h.owner
  accepted := h.accepted

end DirectoryLogin.Service

/-! ## The owner of the sample site -/

namespace DirectoryLogin

open Digest (Bytes)
open Service

namespace Sample

def salt : Bytes := List.replicate 16 0

/-- The site after its owner's account was made. -/
def owned (password : String) : Service :=
  (start settings).step ⟨realm, now, .ensureSiteOwner salt "admin" none (some password)⟩

def owner (password : String) : Account := ownerRow now salt "admin" none password

/-- The same, after the account was blocked by a call on the store. -/
def ownerBlocked (password : String) : Service :=
  { owned password with store := ((owned password).store.perform (.setStatus 1 .blocked)).2 }

/-- A request for the accounts with the name of the owner and an empty password. -/
def blankRequest : Http.Request :=
  ⟨"GET", ⟨"/api/v1/accounts", none⟩, [("authorization", "Basic YWRtaW46")], ""⟩

end Sample

theorem owned_credentials (password : String) :
    OwnersCredentials (Sample.owned password) "admin" password (Sample.owner password) := by
  have hname : Text.trim "admin" = "admin" := by decide +kernel
  have hnow : Time.fourDigitYear Sample.now = true := by decide +kernel
  exact ownersCredentials_of_new none nofun rfl hname hnow ⟨by decide, by decide⟩

theorem owned_checksAgree : Reachable (Sample.owned "secret") ∧
    ChecksAgree (Sample.owned "secret") Sample.realm Sample.now "admin" "secret" := by
  have hreach : Reachable (Sample.owned "secret") := .turn _ _ (.start _)
  refine ⟨hreach, ((checksAgree_iff _ _ _ _).1 _ hreach).mpr ⟨?_, not_ledToOwner nofun⟩⟩
  rintro ⟨a, hcred, hreason⟩
  cases (owned_credentials "secret").named.symm.trans hcred.named
  rcases hreason with hn | hp | hb
  · revert hn
    decide +kernel
  · revert hp
    decide +kernel
  · cases hb

/-- The pages accept an empty password and a blocked owner, and the form accepts neither. -/
theorem owner_checks_disagree :
    (Reachable (Sample.owned "") ∧
      ¬ ChecksAgree (Sample.owned "") Sample.realm Sample.now "admin" "" ∧
      ∀ sessions metrics, Http.Portal.ownerOf ⟨Sample.owned "", sessions, metrics⟩
        Sample.blankRequest = some (Sample.owner "")) ∧
    Reachable (Sample.ownerBlocked "secret") ∧
      ¬ ChecksAgree (Sample.ownerBlocked "secret") Sample.realm Sample.now "admin" "secret" := by
  have hblank := owned_credentials ""
  have hblocked := (owned_credentials "secret").setStatus .blocked
  have hbasic : Sample.blankRequest.basicCredentials = some ("admin", "") := by decide +kernel
  refine ⟨⟨.turn _ _ (.start _), ?_, ?_⟩, .call _ _ (.turn _ _ (.start _)), ?_⟩
  · exact not_checksAgree_of_turnedAway ⟨_, hblank, .inr (.inl rfl)⟩ _ _
  · intro sessions metrics
    exact ownerOf_eq_some_iff.mpr ⟨"admin", "", hbasic, hblank⟩
  · exact not_checksAgree_of_turnedAway ⟨_, hblocked, .inr (.inr rfl)⟩ _ _

end DirectoryLogin
