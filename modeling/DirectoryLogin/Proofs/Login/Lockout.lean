import DirectoryLogin.Login.Service
import DirectoryLogin.Proofs.Directory.Registry
import DirectoryLogin.Proofs.Login.Admission
import DirectoryLogin.Proofs.Login.AssertedName
import DirectoryLogin.Proofs.Login.Ranking

/-!
# Settings that leave no server to ask

Settings are accepted by the ids of the servers that they list. A login asks the servers among them
that are enabled, which an id does not tell.

* `LacksServer`: a request whose search has no server to ask; `LacksServer.attempt`: it fails, and
  `lacksServer_iff`: every search has none if there is no candidate;
* `AllDisabled`, `LeavesServer`: what accepted settings list, and what they should leave;
* `leavesServer_iff`: they leave a server just when they list one that is enabled.
-/

namespace DirectoryLogin

open Settings (Authentication)
open Time (Instant)

variable {r : Realm} {c : Authentication} {s : Store} {q : LoginRequest}

/-- Accepted settings list servers, all of which are known. -/
theorem Settings.Authentication.sids_of_validate {known : List String}
    (h : c.validate known = .ok ()) : c.sids ≠ [] ∧ ∀ sid ∈ c.sids, sid ∈ known := by
  unfold validate at h
  split at h
  · cases h
  · rename_i hempty
    split at h
    · cases h
    · rename_i hknown
      exact ⟨by simpa using hempty, by simpa using hknown⟩

/-- A name that is not blank is looked up with the candidates, and this fails for want of one just
when there is none. -/
theorem Resolution.ofName_noCandidate_iff {registry : Registry} {username : String}
    {password : Option String} :
    (ofName registry c username password).result = .error (.misconfigured .noCandidate) ↔
      registry.candidates c = [] := by
  unfold ofName
  split
  · rename_i hnone
    exact iff_of_true rfl hnone
  · rename_i hsome
    refine iff_of_false (fun hresult => ?_) hsome
    have hruling := walk_ruling username password (registry.candidates c)
    generalize walk username password .none (registry.candidates c) = found at hruling hresult
    cases hruling <;> cases hresult

/-! ## Requests without a server -/

namespace LoginRequest

/-- The search that decides the request has no server to ask. -/
def LacksServer (r : Realm) (c : Authentication) (s : Store) (q : LoginRequest) : Prop :=
  ∃ found, q.resolution? r c s = some found ∧ found.result = .error (.misconfigured .noCandidate)

/-- A search comes after the checks of the name and the password, and so it asks the candidates. -/
theorem exists_ofName {found : Resolution} (h : q.resolution? r c s = some found) :
    ∃ username password, found = Resolution.ofName r.registry c username password := by
  cases q with
  | password name secret =>
    obtain ⟨hname, hsecret, hfound⟩ := passwordSearch?_eq_some h
    refine ⟨Text.trim name, some secret, ?_⟩
    rw [hfound]
    simp [Resolution.ofCredentials, hname, hsecret]
  | singleSignOn v =>
    obtain ⟨-, u, hu, hfound⟩ := assertedSearch?_eq_some h
    have htidy := SingleSignOn.tidy_of_assertedUsername hu
    refine ⟨u, none, ?_⟩
    rw [hfound]
    simp [Resolution.ofAsserted, htidy.trimmed, htidy.ne_empty]

theorem lacksServer_iff : LacksServer r c s q ↔
    (∃ found, q.resolution? r c s = some found) ∧ r.registry.candidates c = [] := by
  have hsearch : ∀ found, q.resolution? r c s = some found →
      (found.result = .error (.misconfigured .noCandidate) ↔ r.registry.candidates c = []) := by
    intro found hfound
    obtain ⟨username, password, rfl⟩ := exists_ofName hfound
    exact Resolution.ofName_noCandidate_iff
  constructor
  · rintro ⟨found, hfound, hresult⟩
    exact ⟨⟨found, hfound⟩, (hsearch found hfound).mp hresult⟩
  · rintro ⟨⟨found, hfound⟩, hnone⟩
    exact ⟨found, hfound, (hsearch found hfound).mpr hnone⟩

/-- Such a request fails, and nothing comes of it. -/
theorem LacksServer.attempt (h : LacksServer r c s q) (now : Instant) :
    q.attempt r c now s = Login.refuse (.misconfigured .noCandidate) s := by
  obtain ⟨⟨found, hfound⟩, hnone⟩ := lacksServer_iff.mp h
  obtain ⟨username, password, rfl⟩ := exists_ofName hfound
  have hname : Resolution.ofName r.registry c username password =
      ⟨.error (.misconfigured .noCandidate), []⟩ := by
    simp [Resolution.ofName, hnone]
  obtain ⟨t, ht, hattempt⟩ := attempt_searched now hfound
  rw [hname] at ht
  rw [hattempt]
  cases ht with
  | unresolved f hf =>
    cases hf
    rfl
  | turnedAway i f hi hg => cases hi
  | mapped i grants result s' hi hg hm => cases hi

end LoginRequest

/-! ## Accepted settings -/

/-- All the servers that the settings list are disabled. -/
def AllDisabled (registry : Registry) (c : Authentication) : Prop :=
  ∀ sid ∈ c.sids, (registry.get? sid).map (·.definition.enabled) = some false

instance (registry : Registry) (c : Authentication) : Decidable (AllDisabled registry c) :=
  inferInstanceAs (Decidable (∀ sid ∈ c.sids, _))

/-- The settings leave a server to log in against. -/
structure LeavesServer (r : Realm) (c : Authentication) : Prop where
  candidates : ∀ mode, r.registry.candidates { c with mode } ≠ []
  logins : ∀ s q, ¬ LoginRequest.LacksServer r c s q

theorem candidates_eq_nil_iff_allDisabled (h : c.validate r.registry.sids = .ok ()) :
    r.registry.candidates c = [] ↔ AllDisabled r.registry c := by
  rw [Registry.candidates_eq_nil_iff]
  refine forall₂_congr fun sid hsid => ?_
  obtain ⟨d, hd⟩ := Registry.exists_get?_of_mem_sids
    ((Settings.Authentication.sids_of_validate h).2 sid hsid)
  simp [hd]

/-- The mode does not decide whether there is a server to ask. -/
theorem candidates_eq_nil_mode (registry : Registry) (c : Authentication)
    (mode : Settings.AuthenticationMode) :
    registry.candidates { c with mode } = [] ↔ registry.candidates c = [] := by
  rw [Registry.candidates_eq_nil_iff, Registry.candidates_eq_nil_iff]

/-- Accepted settings leave a server just when they list one that is enabled. Otherwise every login
that comes to a search is refused. -/
theorem leavesServer_iff (h : c.validate r.registry.sids = .ok ()) :
    (LeavesServer r c ↔ ¬ AllDisabled r.registry c) ∧
      (AllDisabled r.registry c → ∀ now s (q : LoginRequest) found,
        q.resolution? r c s = some found →
          q.attempt r c now s = Login.refuse (.misconfigured .noCandidate) s) := by
  have hnil := candidates_eq_nil_iff_allDisabled h
  refine ⟨⟨fun hleaves hall => hleaves.candidates c.mode (hnil.mpr hall), fun hall => ?_⟩, ?_⟩
  · have hsome : r.registry.candidates c ≠ [] := mt hnil.mp hall
    constructor
    · intro mode
      exact mt (candidates_eq_nil_mode r.registry c mode).mp hsome
    · intro s q hlacks
      exact hsome (LoginRequest.lacksServer_iff.mp hlacks).2
  · intro hall now s q found hfound
    exact (LoginRequest.lacksServer_iff.mpr ⟨⟨found, hfound⟩, hnil.mpr hall⟩).attempt now

/-! ## A disabled server at the sample site -/

namespace Sample

/-- A server that is registered and disabled. -/
def closedTree : Tree :=
  { tree with definition := { tree.definition with sid := "durmstrang", enabled := false } }

/-- A site where one of two servers is disabled. -/
def partlyClosed : Realm := ⟨.ofList [tree.toDirectory, closedTree.toDirectory], .none, []⟩

/-- Settings that list the servers with the given ids. -/
def listing (sids : List String) : Authentication := { settings with sids }

end Sample

theorem sample_leavesServer :
    (Sample.listing ["durmstrang", "hogwarts"]).validate Sample.partlyClosed.registry.sids =
        .ok () ∧
      LeavesServer Sample.partlyClosed (Sample.listing ["durmstrang", "hogwarts"]) := by
  have haccepted : (Sample.listing ["durmstrang", "hogwarts"]).validate
      Sample.partlyClosed.registry.sids = .ok () := by
    decide +kernel
  exact ⟨haccepted, (leavesServer_iff haccepted).1.mpr (by decide +kernel)⟩

/-- The administrator takes the enabled server off the list, and from then on nobody whom only a
directory knows can log in. -/
theorem accepted_settings_lock_out :
    (Sample.listing ["durmstrang"]).validate Sample.partlyClosed.registry.sids = .ok () ∧
      (∀ s : Service, s.update Sample.partlyClosed (Sample.listing ["durmstrang"]) =
        (.ok (), (s.save (Sample.listing ["durmstrang"])).apply (Sample.listing ["durmstrang"]))) ∧
      (∀ mode, Sample.partlyClosed.registry.candidates
        { Sample.listing ["durmstrang"] with mode } = []) ∧
      ¬ LeavesServer Sample.partlyClosed (Sample.listing ["durmstrang"]) ∧
      (login Sample.partlyClosed (Sample.listing ["durmstrang"]) Sample.now "hpotter" "pass"
        .empty).result = .error (.misconfigured .noCandidate) := by
  have haccepted : (Sample.listing ["durmstrang"]).validate Sample.partlyClosed.registry.sids =
      .ok () := by
    decide +kernel
  refine ⟨haccepted, fun s => rfl, fun mode => ?_, fun hleaves => ?_, by decide +kernel⟩
  · cases mode <;> rfl
  · exact absurd rfl (hleaves.candidates .mixed)

end DirectoryLogin
