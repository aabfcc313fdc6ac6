import DirectoryLogin.Proofs.Login.Admission
import DirectoryLogin.Proofs.Login.History
import DirectoryLogin.Proofs.Settings.Codec

/-!
# Saved settings

An accepted update leaves the settings in force and in the store. From there a later start takes
them over as they are, whatever it was given itself, for as long as nobody saves others.

* `updateBy` and `loadBy`: the two operations on a store that may fail to save or to read;
* `step_keeps_settings`: only an update writes saved settings;
* `saved_settings_survive`: what becomes of settings at an update, at a failed one and at a start.
-/

namespace DirectoryLogin

open Settings (Authentication)

variable {s s' : Store}

/-! ## Logins save no settings -/

theorem Mapping.Ending.keeps_settings {t : Mapping.Terms} {i : Identity}
    {result : Except Failure Mapped} (h : Ending t i s result s') : s'.settings = s.settings := by
  cases h <;> rfl

theorem LoginRequest.attempt_keeps_settings (r : Realm) (c : Authentication) (now : Time.Instant)
    (s : Store) (q : LoginRequest) : (q.attempt r c now s).store.settings = s.settings := by
  rcases q.attempt_store r c now s with h | ⟨uid, h⟩ | ⟨t, i, h⟩
  · rw [h]
  · rw [h]
    rfl
  · rw [h]
    exact (Mapping.map_ending t i s).keeps_settings

theorem Store.savedSettings_saveSettings (s : Store) (name text : String) :
    (s.saveSettings name text).savedSettings name = some text := by
  simp [savedSettings, saveSettings]

theorem Store.savedSettings_congr (h : s'.settings = s.settings) (name : String) :
    s'.savedSettings name = s.savedSettings name := by
  rw [savedSettings, savedSettings, h]

namespace Service

variable {r : Realm} {c : Authentication}

theorem login_keeps_settings (r : Realm) (s : Service) (now : Time.Instant)
    (name password : String) : (s.login r now name password).store.settings = s.store.settings := by
  rw [login, ← LoginRequest.attempt_password]
  exact LoginRequest.attempt_keeps_settings r s.live now s.store _

theorem ssoLogin_keeps_settings (r : Realm) (s : Service) (now : Time.Instant) (v : Visit) :
    (s.ssoLogin r now v).store.settings = s.store.settings := by
  rw [ssoLogin, ← LoginRequest.attempt_singleSignOn]
  exact LoginRequest.attempt_keeps_settings r s.live now s.store _

/-- Every turn but an update leaves the saved settings texts as they are. -/
theorem step_keeps_settings (s : Service) {t : Turn} (h : ∀ c, t.operation ≠ .update c) :
    (s.step t).store.settings = s.store.settings := by
  obtain ⟨realm, now, operation⟩ := t
  cases operation with
  | ensureSiteOwner salt name mail password =>
    let n := newLocal name mail (password.map (hashOf salt)) false
    show (s.store.ensureSiteOwner n now).2.settings = s.store.settings
    rcases s.store.ensureSiteOwner_cases n now with h | ⟨-, -, h⟩
    · rw [h]
    · rw [h]
      rfl
  | createLocalAccount salt name mail password excluded =>
    let n := newLocal name mail (some (hashOf salt password)) excluded
    show (s.store.createAccount n now).2.settings = s.store.settings
    rcases s.store.createAccount_cases n now with h | ⟨-, h⟩
    · rw [h]
    · rw [h]
      rfl
  | verifySiteOwner name password => rfl
  | login q => exact q.attempt_keeps_settings realm s.live now s.store
  | update c => exact absurd rfl (h c)
  | load => simp only [step, Service.load]; split <;> rfl
  | restart c => rfl

theorem after_keeps_settings (s : Service) {ts : List Turn}
    (h : ∀ t ∈ ts, ∀ c, t.operation ≠ .update c) :
    (s.after ts).store.settings = s.store.settings := by
  induction ts generalizing s with
  | nil => rfl
  | cons t ts ih =>
    have later := ih (s.step t) fun u hu => h u (List.mem_cons_of_mem t hu)
    exact later.trans (step_keeps_settings s (h t List.mem_cons_self))

/-! ## A store that may fail -/

/-- An update on a store that answers in its own way when it is asked to save the text. -/
def updateBy (saving : Store → Answer Unit) (r : Realm) (s : Service) (c : Authentication) :
    Except Failure Unit × Service :=
  match c.check r.registry.sids with
  | .error refusal => (.error (.settings refusal), s)
  | .ok () =>
    match saving s.store with
    | (.error e, store) => (.error (.store e), { s with store })
    | (.ok (), store) => (.ok (), { s with store }.apply c)

/-- An update is refused, or it fails since the store does, or it puts the settings in force. -/
theorem updateBy_cases (saving : Store → Answer Unit) (r : Realm) (s : Service)
    (c : Authentication) :
    (∃ refusal, s.updateBy saving r c = (.error (.settings refusal), s)) ∨
      (∃ e store, s.updateBy saving r c = (.error (.store e), { s with store })) ∨
      ∃ store, s.updateBy saving r c = (.ok (), { s with store }.apply c) := by
  unfold updateBy
  split
  · rename_i refusal _
    exact .inl ⟨refusal, rfl⟩
  · split
    · rename_i e store _
      exact .inr (.inl ⟨e, store, rfl⟩)
    · rename_i store _
      exact .inr (.inr ⟨store, rfl⟩)

/-- The settings that a text holds, if it can be read and they pass the check. -/
def usable? (r : Realm) (text : String) : Option Authentication := do
  let c ← (Authentication.record.reads.ofText text).toOption
  (c.check r.registry.sids).toOption.map fun _ => c

/-- A start from a store that answers in its own way when it is asked for the text. -/
def loadBy (reading : Store → Answer (Option String)) (r : Realm) (s : Service) :
    Except Failure Bool × Service :=
  match reading s.store with
  | (.error e, store) => (.error (.store e), { s with store })
  | (.ok text, store) =>
    match text.bind (usable? r) with
    | some c => (.ok true, { s with store }.apply c)
    | none => (.ok false, { s with store })

/-- The call that saves settings. -/
def saving (c : Authentication) : Store.Call := .saveSettings settingsName c.toJson.print

theorem update_eq (r : Realm) (s : Service) (c : Authentication) :
    s.update r c = s.updateBy (·.perform (saving c)) r c := by
  unfold update updateBy
  cases c.check r.registry.sids with
  | error refusal => rfl
  | ok => rfl

theorem saved?_eq (r : Realm) (s : Service) :
    s.saved? r = (s.store.savedSettings settingsName).bind (usable? r) := rfl

theorem load_eq (r : Realm) (s : Service) :
    s.loadBy (·.perform (.savedSettings settingsName)) r = (.ok (s.load r).1, (s.load r).2) := by
  simp only [loadBy, Store.perform, load, saved?_eq]
  cases (s.store.savedSettings settingsName).bind (usable? r) with
  | none => rfl
  | some c => rfl

theorem usable?_print (h : c.check r.registry.sids = .ok ()) :
    usable? r c.toJson.print = some c := by
  simp [usable?, Authentication.ofText_print, h, Except.toOption]

/-- Settings that pass the check are taken over from their text. -/
theorem load_of_savedSettings {s : Service}
    (hs : s.store.savedSettings settingsName = some c.toJson.print)
    (hc : c.check r.registry.sids = .ok ()) : s.load r = (true, s.apply c) := by
  have saved : s.saved? r = some c := by
    rw [saved?_eq, hs, Option.bind_some, usable?_print hc]
  simp only [load, saved]

theorem update_eq_ok_iff {s s' : Service} :
    s.update r c = (.ok (), s') ↔ c.check r.registry.sids = .ok () ∧ s' = (s.save c).apply c := by
  unfold update
  split
  · rename_i refused
    simp [refused]
  · rename_i accepted
    simp [accepted, eq_comm]

/-- What becomes of settings that are submitted to a service, and of saved ones when it starts. -/
structure SettingsSurvive (r : Realm) (s : Service) (c : Authentication) : Prop where
  /-- The store of the service saves and reads without fail. -/
  performed : s.update r c = s.updateBy (·.perform (saving c)) r c ∧
    s.loadBy (·.perform (.savedSettings settingsName)) r = (.ok (s.load r).1, (s.load r).2)
  inForce : ∀ saving s', s.updateBy saving r c = (.ok (), s') → s'.live = c
  /-- At once or after a time without updates, a service that starts on the same store and servers
  takes the settings over, whatever settings it has to begin with. -/
  restarted : ∀ s', s.update r c = (.ok (), s') →
    ∀ ts, (∀ t ∈ ts, ∀ other, t.operation ≠ .update other) →
    ∀ r', r'.registry = r.registry → ∀ initial,
      load r' ⟨(s'.after ts).store, initial⟩ = (true, ⟨(s'.after ts).store, c⟩)
  /-- However the store fails, the settings in force stay. -/
  failed : ∀ saving e s', s.updateBy saving r c = (.error e, s') → s'.live = s.live
  notLoaded : ∀ reading found s', s.loadBy reading r = (found, s') → found ≠ .ok true →
    s'.live = s.live
  /-- Settings that the check refuses do not reach the store. -/
  refused : ∀ saving refusal s', s.updateBy saving r c = (.error (.settings refusal), s') → s' = s

theorem saved_settings_survive (r : Realm) (s : Service) (c : Authentication) :
    SettingsSurvive r s c where
  performed := ⟨update_eq r s c, load_eq r s⟩
  inForce saving s' h := by
    rcases updateBy_cases saving r s c with ⟨_, hu⟩ | ⟨_, _, hu⟩ | ⟨store, hu⟩
    · cases hu.symm.trans h
    · cases hu.symm.trans h
    · cases hu.symm.trans h
      rfl
  restarted s' h ts hts r' hr initial := by
    obtain ⟨hc, rfl⟩ := update_eq_ok_iff.mp h
    have kept := after_keeps_settings ((s.save c).apply c) hts
    refine load_of_savedSettings ((Store.savedSettings_congr kept settingsName).trans ?_) (hr ▸ hc)
    exact s.store.savedSettings_saveSettings settingsName c.toJson.print
  failed saving e s' h := by
    rcases updateBy_cases saving r s c with ⟨_, hu⟩ | ⟨_, _, hu⟩ | ⟨_, hu⟩
    · cases hu.symm.trans h
      rfl
    · cases hu.symm.trans h
      rfl
    · cases hu.symm.trans h
  notLoaded reading found s' h hf := by
    unfold loadBy at h
    split at h
    · cases h
      rfl
    · split at h
      · cases h
        exact absurd rfl hf
      · cases h
        rfl
  refused saving refusal s' h := by
    rcases updateBy_cases saving r s c with ⟨_, hu⟩ | ⟨_, _, hu⟩ | ⟨_, hu⟩
    · cases hu.symm.trans h
      rfl
    · cases hu.symm.trans h
    · cases hu.symm.trans h

end Service

/-! ## The sample site starts again -/

/-- Settings with texts that take escapes. -/
def Sample.wordy : Authentication :=
  { Sample.settings with
    mode := .exclusive
    helpLinkText := some "Hilfe \"für\" Gäste\n\x01"
    sso := { Settings.Sso.default with
      seamlessLogin := .everyPage
      excludedPaths := ["/cron/*", "\\"] } }

theorem sample_restarted : ∃ s,
    (Service.start .default).update Sample.realm Sample.wordy = (.ok (), s) ∧
      s.live = Sample.wordy ∧
      Service.load Sample.realm ⟨s.store, .default⟩ = (true, ⟨s.store, Sample.wordy⟩) := by
  have survive := Service.saved_settings_survive Sample.realm (Service.start .default) Sample.wordy
  have accepted := Service.update_eq_ok_iff (s := Service.start .default) (r := Sample.realm)
    |>.mpr ⟨(rfl : Sample.wordy.check Sample.realm.registry.sids = .ok ()), rfl⟩
  have inForce := survive.inForce _ _ (survive.performed.1 ▸ accepted)
  have restarted :=
    survive.restarted _ accepted [] (List.forall_mem_nil _) Sample.realm rfl .default
  exact ⟨_, accepted, inForce, restarted⟩

end DirectoryLogin
