import DirectoryLogin.Http.Portal
import DirectoryLogin.Proofs.Account.Naming
import DirectoryLogin.Proofs.Login.OwnerCheck

/-!
# The name of the site owner

A site that starts without accounts makes one under the name that its settings give the owner. The
settings are accepted if that name is not blank, whatever stands at its ends.

* `FindsOwner`, `MissesOwner`: a name under which both checks of the owner come to the owner's
  account, or do not;
* `start_empty`: the account that the start makes;
* `found_by_name_iff`: accounts, and the owner's among them, are found by their own names just when
  these are trimmed.
-/

namespace DirectoryLogin

open Digest (Bytes)
open Store (Readable)
open Time (Instant)

/-- Accepted settings give the owner a name that is not blank. -/
theorem Settings.Site.ownerName_of_validate {c : Site} (h : c.validate = .ok ()) :
    Text.trim c.owner.name ≠ "" := by
  rw [Ne, Text.trim_eq_empty_iff]
  intro hblank
  simp only [validate, hblank, ↓reduceIte] at h
  cases hservers : checkServers [] c.servers with
  | error flaw =>
    rw [hservers] at h
    cases h
  | ok u =>
    rw [hservers] at h
    cases hauth : (c.authentication.validate (c.servers.map (·.sid))).mapError
        Flaw.authentication with
    | error flaw =>
      rw [hauth] at h
      cases h
    | ok u' =>
      rw [hauth] at h
      cases h

namespace Service

variable {s : Service} {name : String} {a : Account}

/-- Under the name, both checks of the site owner go by the password of the account. -/
structure FindsOwner (s : Service) (name : String) (a : Account) : Prop where
  named : s.store.accountByName name = .ok (some a)
  pages : ∀ password, s.verifySiteOwner name password =
    if a.acceptsPassword password then .ok a else .error .invalidCredentials
  form : ∀ r now password, password ≠ "" →
    s.login r now name password = Login.withLocalPassword now a password s.store

/-- Under the name, the pages accept nobody, and the form leaves the login to the directory. -/
structure MissesOwner (s : Service) (name : String) : Prop where
  unnamed : s.store.accountByName name = .ok none
  pages : ∀ password, s.verifySiteOwner name password = .error .invalidCredentials
  form : ∀ r now password, password ≠ "" → s.login r now name password =
    Login.withDirectoryPassword r s.live now (Text.trim name) password s.store

theorem findsOwner_iff (hu : a.uid = siteOwnerUid) (hname : Text.trim name ≠ "") :
    FindsOwner s name a ↔ s.store.accountByName name = .ok (some a) := by
  refine ⟨FindsOwner.named,
    fun hn => ⟨hn, fun password => ?_, fun r now password hpassword => ?_⟩⟩
  · have howner : a.isSiteOwner = true := by simp [Account.isSiteOwner, hu]
    simp only [verifySiteOwner, hn, howner, Bool.true_and]
  · exact login_bypassing hname hpassword hn (Account.bypasses_of_siteOwner hu)

theorem missesOwner_iff (hname : Text.trim name ≠ "") :
    MissesOwner s name ↔ s.store.accountByName name = .ok none := by
  refine ⟨MissesOwner.unnamed,
    fun hn => ⟨hn, fun password => ?_, fun r now password hpassword => ?_⟩⟩
  · simp only [verifySiteOwner, hn]
  · rw [login, login_given ⟨hname, hpassword⟩, Store.accountByName_trim, hn]

end Service

/-! ## The start of a site -/

namespace Http.Portal

open Service

variable {site : Settings.Site} {now : Instant}

/-- The account that a site makes for its owner. -/
def ownerAccount (site : Settings.Site) (now : Instant) (salt : Bytes) : Account :=
  Store.NewAccount.row (newLocal site.owner.name site.owner.mail
    (site.owner.password.map (hashOf salt)) false) siteOwnerUid false now

theorem readAccount_ownerAccount (site : Settings.Site) (salt : Bytes)
    (hnow : Time.fourDigitYear now = true) :
    Store.readAccount (ownerAccount site now salt) = .ok (ownerAccount site now salt) :=
  Store.readAccount_row _ false now hnow

/-- A site that starts without accounts has the owner's afterwards, and its settings in force. -/
theorem start_empty (site : Settings.Site) (registry : Registry) (salt : Bytes)
    (hnow : Time.fourDigitYear now = true) :
    Portal.start site registry .empty now salt =
      .ok ⟨⟨Store.empty.addOwner (ownerAccount site now salt), site.authentication⟩,
        .empty site.sessions.secret site.sessions.ttlSeconds, .empty⟩ := by
  have hmade : (⟨.empty, site.authentication⟩ : Service).ensureSiteOwner now salt site.owner.name
      site.owner.mail site.owner.password =
        (.ok (ownerAccount site now salt),
          ⟨Store.empty.addOwner (ownerAccount site now salt), site.authentication⟩) := by
    show ((Store.readAccount (ownerAccount site now salt)).mapError Failure.store, _) = _
    rw [readAccount_ownerAccount site salt hnow]
    rfl
  unfold Portal.start
  dsimp only
  rw [hmade]
  rfl

/-- The state holds the owner's account, which is found under the name of the settings if that is
trimmed, and missed otherwise. -/
structure NamesOwner (site : Settings.Site) (now : Instant) (salt : Bytes) (st : State) : Prop where
  only : st.service.store.accounts = [ownerAccount site now salt]
  found_iff : FindsOwner st.service site.owner.name (ownerAccount site now salt) ↔
    Text.trim site.owner.name = site.owner.name
  missed_iff : MissesOwner st.service site.owner.name ↔
    Text.trim site.owner.name ≠ site.owner.name

theorem start_namesOwner (h : site.validate = .ok ()) (registry : Registry) (salt : Bytes)
    (hnow : Time.fourDigitYear now = true) :
    ∃ st, Portal.start site registry .empty now salt = .ok st ∧ NamesOwner site now salt st := by
  have hname := Settings.Site.ownerName_of_validate h
  have hfinds := findsOwner_iff (s := ⟨Store.empty.addOwner (ownerAccount site now salt),
    site.authentication⟩) (a := ownerAccount site now salt) rfl hname
  have hmisses := missesOwner_iff (s := ⟨Store.empty.addOwner (ownerAccount site now salt),
    site.authentication⟩) hname
  refine ⟨_, start_empty site registry salt hnow, ?_⟩
  by_cases htrim : Text.trim site.owner.name = site.owner.name
  · have hfound : (Store.empty.addOwner (ownerAccount site now salt)).accountByName
        site.owner.name = .ok (some (ownerAccount site now salt)) :=
      Store.accountByName_addOwner htrim (readAccount_ownerAccount site salt hnow)
    rw [hfound] at hfinds hmisses
    exact ⟨rfl, hfinds.trans (iff_of_true rfl htrim),
      hmisses.trans (iff_of_false nofun (not_not.mpr htrim))⟩
  · have hmissed : (Store.empty.addOwner (ownerAccount site now salt)).accountByName
        site.owner.name = .ok none :=
      Store.accountByName_addOwner_untrimmed (a := ownerAccount site now salt) htrim
    rw [hmissed] at hfinds hmisses
    exact ⟨rfl, hfinds.trans (iff_of_false nofun htrim), hmisses.trans (iff_of_true rfl htrim)⟩

end Http.Portal

/-- In a store that holds readable timestamps only, the accounts that are found by their own names
are those with trimmed names. So the owner of a site that starts without accounts is found under the
name of accepted settings just when it is trimmed, and missed otherwise. -/
theorem found_by_name_iff {cs : List Store.Call} (hread : Readable (Store.empty.after cs))
    {site : Settings.Site} (hvalid : site.validate = .ok ()) {now : Instant}
    (hnow : Time.fourDigitYear now = true) (registry : Registry) (salt : Bytes) :
    (∀ a ∈ (Store.empty.after cs).accounts,
      ((Store.empty.after cs).accountByName a.name = .ok (some a) ↔ Text.trim a.name = a.name)) ∧
    ∃ st, Http.Portal.start site registry .empty now salt = .ok st ∧
      Http.Portal.NamesOwner site now salt st := by
  refine ⟨fun a ha => ?_, Http.Portal.start_namesOwner hvalid registry salt hnow⟩
  rw [(Store.after_wellFormed cs).accountByName_self_iff ha]
  exact and_iff_right (hread a ha)

/-! ## Names at the sample site -/

namespace Sample

/-- The sample site with an owner of the given name. -/
def siteOf (ownerName : String) : Settings.Site :=
  { Settings.Site.default with
    servers := [{ tree.definition with bindMethod := .anonymous }]
    authentication := settings
    owner := ⟨ownerName, none, some "secret"⟩
    sessions := ⟨"0123456789abcdef", 28800, true⟩ }

/-- An account is made under the given name. -/
def naming (name : String) : List Store.Call := [.createAccount ⟨name, none, none, false, []⟩ now]

/-- The account that is made. -/
def named (name : String) : Account := ⟨2, name, none, none, .active, false, [], now, none⟩

end Sample

theorem sample_readable (name : String) : Readable (Store.empty.after (Sample.naming name)) := by
  refine Store.after_readable fun c hc t ht => ?_
  obtain rfl := List.mem_singleton.mp hc
  obtain rfl := Option.some.inj ht
  decide +kernel

theorem sample_found_by_name :
    (Readable (Store.empty.after (Sample.naming "harry")) ∧
      (Store.empty.after (Sample.naming "harry")).accountByName "harry" =
        .ok (some (Sample.named "harry"))) ∧
    (Sample.siteOf "admin").validate = .ok () ∧ Time.fourDigitYear Sample.now = true ∧
      ∃ st, Http.Portal.start (Sample.siteOf "admin") Sample.realm.registry .empty Sample.now
          Sample.salt = .ok st ∧
        st.service.verifySiteOwner "admin" "secret" =
          .ok (Http.Portal.ownerAccount (Sample.siteOf "admin") Sample.now Sample.salt) := by
  have hread := sample_readable "harry"
  have hvalid : (Sample.siteOf "admin").validate = .ok () := by decide +kernel
  have hnow : Time.fourDigitYear Sample.now = true := by decide +kernel
  obtain ⟨haccounts, st, hstart, howner⟩ := found_by_name_iff hread hvalid hnow
    Sample.realm.registry Sample.salt
  have hfound := (haccounts (Sample.named "harry") (by decide)).mpr (by decide +kernel)
  have haccepts : (Http.Portal.ownerAccount (Sample.siteOf "admin") Sample.now
      Sample.salt).acceptsPassword "secret" = true :=
    Service.acceptsPassword_of_hashOf rfl ⟨by decide, by decide⟩
  have hpages := (howner.found_iff.mpr (by decide +kernel)).pages "secret"
  rw [haccepts, if_pos rfl] at hpages
  exact ⟨⟨hread, hfound⟩, hvalid, hnow, st, hstart, hpages⟩

/-- A name with a space before it is accepted, for an account and for the owner, and whoever is
given it is not found by it. -/
theorem padded_names_missed :
    (Readable (Store.empty.after (Sample.naming " harry")) ∧
      Sample.named " harry" ∈ (Store.empty.after (Sample.naming " harry")).accounts ∧
      (Store.empty.after (Sample.naming " harry")).accountByName " harry" = .ok none) ∧
    (Sample.siteOf " admin").validate = .ok () ∧
      ∃ st, Http.Portal.start (Sample.siteOf " admin") Sample.realm.registry .empty Sample.now
          Sample.salt = .ok st ∧
        st.service.MissesOwner " admin" := by
  have hvalid : (Sample.siteOf " admin").validate = .ok () := by decide +kernel
  have hnow : Time.fourDigitYear Sample.now = true := by decide +kernel
  obtain ⟨st, hstart, howner⟩ := Http.Portal.start_namesOwner hvalid Sample.realm.registry
    Sample.salt hnow
  refine ⟨⟨sample_readable " harry", by decide, by decide +kernel⟩, hvalid, st, hstart, ?_⟩
  exact howner.missed_iff.mpr (by decide +kernel)

end DirectoryLogin
