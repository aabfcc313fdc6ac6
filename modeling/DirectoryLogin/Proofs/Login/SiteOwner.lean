import DirectoryLogin.Proofs.Login.History

/-!
# The site owner's account

No directory and no setting leads to the account of the site owner, which may do everything.

* `OwnerIsolated`: what keeps the account apart through a history;
* `siteOwner_isolated`: every history of a service that starts without accounts keeps it apart.
-/

namespace DirectoryLogin.Service

open Settings (Authentication)
open Time (Instant)

variable {s : Service} {ts : List Turn} {e : Event} {a : Account}

/-- The site owner's account is made by a turn of the history, if it was not there before. -/
theorem exists_makesOwner (h : WellLinked s.store)
    (hnew : ∀ a ∈ s.store.accounts, a.uid ≠ siteOwnerUid) (ha : a ∈ (s.after ts).store.accounts)
    (hu : a.uid = siteOwnerUid) : ∃ e ∈ s.events ts, MakesOwner e.before e.turn := by
  induction ts generalizing s with
  | nil => exact absurd hu (hnew a ha)
  | cons t ts ih =>
    rcases step_store s t with hm | hw
    · exact ⟨⟨s, t⟩, List.mem_cons_self, hm⟩
    · obtain ⟨e, he, hm⟩ := ih (step_wellLinked h t) (hw.ownerless h hnew) ha
      exact ⟨e, List.mem_cons_of_mem _ he, hm⟩

/-- A history leaves the site owner's account as it is, the time of the last login aside. -/
theorem after_owner (h : WellLinked s.store) (ha : a ∈ s.store.accounts)
    (hu : a.uid = siteOwnerUid) (ts : List Turn) :
    ∃ at_, { a with lastLogin := at_ } ∈ (s.after ts).store.accounts := by
  induction ts generalizing s a with
  | nil => exact ⟨a.lastLogin, ha⟩
  | cons t ts ih =>
    obtain ⟨at_, hat⟩ := step_owner h t ha hu
    obtain ⟨at', hat'⟩ := ih (step_wellLinked h t) hat hu
    exact ⟨at', hat'⟩

/-- The name of the site owner's account leads to no search. -/
theorem siteOwner_questions (r : Realm) (s : Service) (now : Instant) {name : String}
    (password : String) (hn : s.store.accountByName name = .ok (some a))
    (hu : a.uid = siteOwnerUid) : (s.login r now name password).questions = [] := by
  have hsearch : LoginRequest.passwordSearch? r s.live s.store name password = none :=
    LoginRequest.passwordSearch?_bypassing password hn (Account.bypasses_of_siteOwner hu)
  exact LoginRequest.attempt_questions_nil (q := .password name password) hsearch

/-- What keeps the site owner's account apart through a history. -/
structure OwnerIsolated (c : Authentication) (ts : List Turn) : Prop where
  /-- The account is there only if it was asked for with success. (Where the clock stands at a year
  that has not four digits, the account that is made cannot be read back.) -/
  made : ∀ a ∈ ((start c).after ts).store.accounts, a.uid = siteOwnerUid →
    ∃ e ∈ (start c).events ts, ∃ salt name mail password,
      e.turn.operation = .ensureSiteOwner salt name mail password ∧
      (Time.fourDigitYear e.turn.now = true →
        ∃ owner, (e.before.ensureSiteOwner e.turn.now salt name mail password).1 = .ok owner)
  /-- No link points at the account. -/
  unlinked : ∀ m ∈ ((start c).after ts).store.authmaps, m.uid ≠ siteOwnerUid
  /-- Once made it is there for good, and only the time of the last login ever changes. -/
  kept : ∀ later, ∀ a ∈ ((start c).after ts).store.accounts, a.uid = siteOwnerUid →
    (∃ b ∈ ((start c).after (ts ++ later)).store.accounts, b.uid = siteOwnerUid) ∧
    ∀ b ∈ ((start c).after (ts ++ later)).store.accounts, b.uid = siteOwnerUid →
      b = { a with lastLogin := b.lastLogin }
  /-- Only the local password logs in as the site owner. -/
  byPassword : ∀ e ∈ (start c).events ts, ∀ o, e.outcome? = some o →
    o.account.uid = siteOwnerUid → o.method = .localPassword
  /-- A login under the site owner's name asks no directory anything. -/
  unasked : ∀ e ∈ (start c).events ts, ∀ name password a,
    e.turn.operation = .login (.password name password) →
    e.before.store.accountByName name = .ok (some a) → a.uid = siteOwnerUid →
    (e.before.login e.turn.realm e.turn.now name password).questions = []

/-- No history leads a directory to the site owner's account. -/
theorem siteOwner_isolated (c : Authentication) (ts : List Turn) : OwnerIsolated c ts where
  made := by
    intro a ha hu
    have hnone : ∀ b ∈ (start c).store.accounts, b.uid ≠ siteOwnerUid := by
      simp [start, Store.empty]
    obtain ⟨e, he, hm⟩ := exists_makesOwner .empty hnone ha hu
    obtain ⟨salt, name, mail, password, hop, hok⟩ := hm.asked
    exact ⟨e, he, salt, name, mail, password, hop, hok⟩
  unlinked := (after_wellLinked c ts).uid_ne
  kept := by
    intro later a ha hu
    rw [after_append]
    obtain ⟨at_, hat⟩ := after_owner (after_wellLinked c ts) ha hu later
    refine ⟨⟨_, hat, hu⟩, fun b hb hbu => ?_⟩
    have hwf : (((start c).after ts).after later).store.WellFormed := by
      rw [← after_append]
      exact (after_wellLinked c (ts ++ later)).wellFormed
    rw [hwf.eq_of_uid hb hat (hbu.trans hu.symm)]
  byPassword := by
    intro e he o ho hu
    by_contra hm
    obtain ⟨-, -, l, hl, -, -, hlu⟩ := outcome_linked ho hm
    exact (event_after_wellLinked he).uid_ne l hl (hlu.trans hu)
  unasked := by
    intro e he name password a hop hn hu
    exact siteOwner_questions e.turn.realm e.before e.turn.now password hn hu

end DirectoryLogin.Service
