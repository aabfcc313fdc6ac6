import DirectoryLogin.Proofs.Login.Admission

/-!
# What a refused login leaves behind

A login that fails should change nothing. The writes of a mapping come after its checks, with one
exception: an account that is linked because of its name is linked first, and only then found to
be blocked.

* `FailsCleanly`: a mapping or a request which, if it fails although the database works, leaves
  the accounts and the links as they were;
* `LinksBlocked`: it links a blocked account;
* `failsCleanly_iff`: it fails cleanly just when it does not do that.
-/

namespace DirectoryLogin

open Settings (Authentication)
open Store (Script)
open Time (Instant)

variable {s s' : Store}

/-! ## Mappings -/

namespace Mapping

variable {t : Terms} {i : Identity} {a : Account}

/-- If the mapping fails although the database works, accounts and links stay as they were. -/
def FailsCleanly (t : Terms) (i : Identity) (s : Store) : Prop :=
  (map t i).Undisturbed s → ∀ f s', (map t i).run s = (.error f, s') →
    s'.accounts = s.accounts ∧ s'.authmaps = s.authmaps

/-- The account of the identity's name may be linked to the identity, and it is blocked. -/
def LinksBlocked (t : Terms) (i : Identity) (s : Store) : Prop :=
  ∃ a, Linkable t i s a ∧ s.link? directoryModule i.authname = none ∧ a.status = .blocked

/-- An account that may be linked is linked before it is brought up to date. -/
theorem map_leads_refresh (h : Linkable t i s a) (hl : s.link? directoryModule i.authname = none) :
    Script.Leads (map t i) s
      (refresh t (mailFor t.settings i) a >>= fun a => pure ⟨a, false⟩) (withLink s i a) := by
  have hstored : ∃ b ∈ s.accounts, b.uid = a.uid :=
    ⟨a, (Store.accountByName_eq_some h.named).1, rfl⟩
  have hcreate : s.perform (.createAuthmap a.uid directoryModule i.authname) =
      (.ok (s.nextAuthmap a.uid directoryModule i.authname), withLink s i a) :=
    Store.createAuthmap_ok hl hstored
  have hassociate : Script.Leads (associate t i.authname (mailFor t.settings i) a) s
      (refresh t (mailFor t.settings i) a) (withLink s i a) := by
    simp only [associate, h.open_, Bool.false_eq_true, ↓reduceIte]
    refine .trans (.ask (by rw [Store.perform, h.free]) _) ?_
    simp only [h.allowed, reduceCtorEq, ↓reduceIte]
    exact .ask hcreate _
  unfold map
  refine .trans (.ask (by rw [Store.perform, h.unlinked]) _) ?_
  refine .trans (.ask (by rw [Store.perform, h.named]) _) ?_
  exact hassociate.bind _

/-- An account that may be made is made at once. -/
theorem map_leads_provision (h : Creatable t i s) :
    Script.Leads (map t i) s
      (provision t i.authname (mailFor t.settings i) i.accountName >>= fun a => pure ⟨a, true⟩)
      s := by
  unfold map
  refine .trans (.ask (by rw [Store.perform, h.unlinked]) _) ?_
  refine .trans (.ask (by rw [Store.perform, h.unnamed]) _) ?_
  simp only [h.allowed, reduceCtorEq, ↓reduceIte]
  exact ⟨rfl, Iff.rfl⟩

theorem withLink_authmaps_ne (s : Store) (i : Identity) (a : Account) :
    (withLink s i a).authmaps ≠ s.authmaps := by
  simp [withLink, Store.addAuthmap]

/-- A blocked account is linked and then turned away, without an error of the database. -/
theorem LinksBlocked.run (h : LinksBlocked t i s) :
    (map t i).Undisturbed s ∧
      ∃ a, (map t i).run s = (.error (.disallowed .blockedAccount), withLink s i a) := by
  obtain ⟨a, ha, hl, hs⟩ := h
  have hleads := map_leads_refresh ha hl
  have hrefresh : refresh t (mailFor t.settings i) a =
      Script.fail (.disallowed .blockedAccount) := by
    simp only [refresh, hs, ↓reduceIte]
  rw [hrefresh] at hleads
  exact ⟨hleads.undisturbed.mpr trivial, a, hleads.run⟩

/-- A new account that cannot be read back is an error of the database. -/
theorem disturbed_of_unreadable (h : Creatable t i s) (hn : s.nameTaken i.accountName = false)
    (hl : s.link? directoryModule i.authname = none) {e : StoreError}
    (hr : Store.readAccount (newcomer t i s) = .error e) : ¬ (map t i).Undisturbed s := by
  intro hu
  have hmap := (map_leads_provision h).undisturbed.mp hu
  obtain ⟨hprovision, -⟩ := Script.undisturbed_bind.mp hmap
  obtain ⟨hask, -⟩ := Script.undisturbed_bind.mp hprovision
  obtain ⟨at_, rfl⟩ := Store.readAccount_eq_error hr
  have hcall : (s.perform
      (.provisionAccount (fresh t i) directoryModule i.authname t.now)).1 = _ :=
    congrArg Prod.fst (Store.provisionAccount_eq hn hl)
  exact Script.undisturbed_ask.mp hask _ (hcall.trans hr) rfl

/-- A mapping that fails although the database works has linked a blocked account, or nothing. -/
theorem Ending.of_error {f : Failure} (h : Ending t i s (.error f) s')
    (hu : (map t i).Undisturbed s) : LinksBlocked t i s ∨ s' = s := by
  cases h with
  | associatedBlocked a ha hl hs => exact Or.inl ⟨a, ha, hl, hs⟩
  | provisionUnreadable e hc hn hl hr => exact absurd hu (disturbed_of_unreadable hc hn hl hr)
  | unreadableLink | linkedBlocked | unreadableName | bypassing | linkedElsewhere | rejected
  | linkRefused | creationDisabled | provisionRefused => exact Or.inr rfl

theorem map_failsCleanly_iff (t : Terms) (i : Identity) (s : Store) :
    FailsCleanly t i s ↔ ¬ LinksBlocked t i s := by
  constructor
  · intro hclean hblocked
    obtain ⟨hu, a, hrun⟩ := hblocked.run
    exact withLink_authmaps_ne s i a (hclean hu _ _ hrun).2
  · intro hblocked hu f s' hrun
    obtain rfl := ((ending_of_run hrun).of_error hu).resolve_left hblocked
    exact ⟨rfl, rfl⟩

end Mapping

/-! ## Requests -/

namespace LoginRequest

variable {r : Realm} {c : Authentication} {now : Instant} {q : LoginRequest} {i : Identity}
  {grants : Option (List String)}

/-- If the request fails although the database works, accounts and links stay as they were. The
calls on the store before the mapping only read. -/
def FailsCleanly (r : Realm) (c : Authentication) (now : Instant) (s : Store) (q : LoginRequest) :
    Prop :=
  (∀ i grants, Maps r c s q i grants →
    (Mapping.map (Login.terms c now grants) i).Undisturbed s) →
  ∀ f, (q.attempt r c now s).result = .error f →
    (q.attempt r c now s).store.accounts = s.accounts ∧
      (q.attempt r c now s).store.authmaps = s.authmaps

/-- The request comes to a mapping that links a blocked account. -/
def LinksBlocked (r : Realm) (c : Authentication) (now : Instant) (s : Store) (q : LoginRequest) :
    Prop :=
  ∃ i grants, Maps r c s q i grants ∧ Mapping.LinksBlocked (Login.terms c now grants) i s

theorem attempt_failsCleanly_iff (r : Realm) (c : Authentication) (now : Instant) (s : Store)
    (q : LoginRequest) : FailsCleanly r c now s q ↔ ¬ LinksBlocked r c now s q := by
  constructor
  · rintro hclean ⟨i, grants, hq, hblocked⟩
    obtain ⟨hu, a, hrun⟩ := hblocked.run
    obtain ⟨hstore, hresult⟩ := hq.attempt hrun
    have hquiet : ∀ i' grants', Maps r c s q i' grants' →
        (Mapping.map (Login.terms c now grants') i').Undisturbed s := by
      intro i' grants' hq'
      obtain rfl := Option.some.inj (hq.identified.symm.trans hq'.identified)
      obtain rfl := Except.ok.inj (hq.admitted.symm.trans hq'.admitted)
      exact hu
    have hkept := (hclean hquiet _ hresult).2
    rw [hstore] at hkept
    exact Mapping.withLink_authmaps_ne s i a hkept
  · intro hblocked hquiet f hf
    rcases attempt_error hf with hstore | ⟨i, grants, hq, hrun⟩
    · rw [hstore]
      exact ⟨rfl, rfl⟩
    · have hclean := (Mapping.map_failsCleanly_iff (Login.terms c now grants) i s).mpr
        fun hmap => hblocked ⟨i, grants, hq, hmap⟩
      exact hclean (hquiet i grants hq) f _ hrun

end LoginRequest

/-- A mapping and a request fail cleanly just when they do not link a blocked account. -/
theorem failsCleanly_iff (t : Mapping.Terms) (i : Identity) (r : Realm) (c : Authentication)
    (now : Instant) (q : LoginRequest) (s : Store) :
    (Mapping.FailsCleanly t i s ↔ ¬ Mapping.LinksBlocked t i s) ∧
      (LoginRequest.FailsCleanly r c now s q ↔ ¬ LoginRequest.LinksBlocked r c now s q) :=
  ⟨Mapping.map_failsCleanly_iff t i s, LoginRequest.attempt_failsCleanly_iff r c now s q⟩

/-! ## A blocked account at the sample site -/

namespace Sample

/-- Settings under which an account may be linked because of its name. -/
def associating : Authentication := { settings with existingAccount := .associate }

/-- A store with an account of the person's name, which is blocked. -/
def blockedStore : Store :=
  (Store.empty.createAccount ⟨"hpotter", none, none, false, []⟩ now).2.setStatus 2 .blocked

/-- The person's identity. -/
def identity : Identity :=
  ⟨⟨"cn=hpotter,ou=people,dc=hogwarts,dc=edu", "hogwarts", [("uid", ["hpotter"])]⟩, "hpotter",
    tree.definition⟩

end Sample

theorem sample_linksBlocked :
    LoginRequest.LinksBlocked Sample.realm Sample.associating Sample.now Sample.blockedStore
      (.password "hpotter" "pass") := by
  refine ⟨Sample.identity, none, ⟨?_, ?_⟩,
    ⟨2, "hpotter", none, none, .blocked, false, [], Sample.now, none⟩,
    ⟨?_, ?_, ?_, ?_, ?_⟩, ?_, ?_⟩
  all_goals decide +kernel

/-- The person is turned away, and has a link to the blocked account from then on. -/
theorem refused_login_leaves_link :
    ¬ LoginRequest.FailsCleanly Sample.realm Sample.associating Sample.now Sample.blockedStore
        (.password "hpotter" "pass") ∧
      (login Sample.realm Sample.associating Sample.now "hpotter" "pass"
        Sample.blockedStore).result = .error (.disallowed .blockedAccount) ∧
      Sample.blockedStore.authmaps = [] ∧
      (login Sample.realm Sample.associating Sample.now "hpotter" "pass"
        Sample.blockedStore).store.authmaps = [⟨1, 2, directoryModule, "hpotter"⟩] := by
  refine ⟨?_, ?_, ?_, ?_⟩
  · intro hclean
    exact (LoginRequest.attempt_failsCleanly_iff ..).mp hclean sample_linksBlocked
  all_goals decide +kernel

end DirectoryLogin
