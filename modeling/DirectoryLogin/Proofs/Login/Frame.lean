import DirectoryLogin.Proofs.Login.Refusal
import DirectoryLogin.Proofs.Login.SavedSettings

/-!
# What a login may touch

A login adds an account or changes one, and it may add a link. It does so on its way to a success
and on some ways to a failure, and never more than that.

* `Touched`: what a login can do to the accounts;
* `Mapping.Ending.touched`, `Mapping.Ending.authmaps_cases`: what the mapping of an identity does;
* `LoginFrame` and `Service.login_frame`: what therefore holds of every login of a service.
-/

namespace DirectoryLogin

open Settings (Authentication)
open Time (Instant)

variable {s s' : Store} {accounts : List Account} {returned : Option Account}

/-- What a login does to the `accounts` that are there, where `returned` is the account that it
returns, if any. Of an account that was there before, only the mail address, the roles and the time
of the last login change. -/
inductive Touched (returned : Option Account) (accounts : List Account) : List Account → Prop
  | none : Touched returned accounts accounts
  | added (a : Account) (hnew : ∀ b ∈ accounts, b.uid ≠ a.uid) (hreturned : ∀ o ∈ returned, o = a) :
      Touched returned accounts (accounts ++ [a])
  | changed (before after : List Account) (a : Account) (mail : Option String) (roles : List String)
      (lastLogin : Option Instant) (hbefore : accounts = before ++ a :: after)
      (hreturned : ∀ o ∈ returned, o = { a with mail, roles, lastLogin }) :
      Touched returned accounts (before ++ { a with mail, roles, lastLogin } :: after)

/-- A change of the permitted kind to an account that is stored and returned. -/
theorem Touched.modify (h : s.WellFormed) {a : Account} (ha : a ∈ s.accounts)
    {change : Account → Account} {mail : Option String} {roles : List String}
    {lastLogin : Option Instant} (hchange : change a = { a with mail, roles, lastLogin })
    (hreturned : ∀ o ∈ returned, o = change a) :
    Touched returned s.accounts (s.modify a.uid change).accounts := by
  obtain ⟨before, after, hbefore, hafter⟩ := h.modify_of_mem ha change
  rw [hafter]
  rw [hchange] at hreturned ⊢
  exact .changed before after a mail roles lastLogin hbefore hreturned

namespace Mapping

variable {t : Terms} {i : Identity} {result : Except Failure Mapped}

/-- The uid of the account made for an identity is new. -/
theorem newcomer_uid_ne (h : s.WellFormed) : ∀ b ∈ s.accounts, b.uid ≠ (newcomer t i s).uid := by
  intro b hb
  have hle := h.uid_le b hb
  show b.uid ≠ s.lastUid + 1
  omega

/-- The time of the login of an account that was just made is recorded in that account alone. -/
theorem touchLogin_withNewcomer (h : s.WellFormed) (now : Instant) :
    ((withNewcomer t i s).touchLogin (newcomer t i s).uid now).accounts =
      s.accounts ++ [{ newcomer t i s with lastLogin := some now }] := by
  have haccounts : (withNewcomer t i s).accounts = s.accounts ++ [newcomer t i s] := rfl
  rw [Store.touchLogin, Store.modify, haccounts, List.map_append,
    Store.map_change_of_ne (newcomer_uid_ne h)]
  simp

theorem Ending.touched (hend : Ending t i s result s') (h : s.WellFormed) :
    Touched (result.toOption.map Mapped.account) s.accounts s'.accounts := by
  cases hend with
  | linked a hl hs =>
    obtain ⟨m, -, -, ha, -⟩ := Store.accountByAuthname_eq_some hl
    exact .modify h ha rfl fun o ho => (Option.some.inj ho).symm
  | associated a hlink hl hs =>
    have ha := (Store.accountByName_eq_some hlink.named).1
    -- A link leaves the accounts as they are.
    have htouched : Touched (some (update t (mailFor t.settings i) a a)) s.accounts
        (s.modify a.uid (update t (mailFor t.settings i) a)).accounts :=
      .modify h ha rfl fun o ho => (Option.some.inj ho).symm
    exact htouched
  | provisionUnreadable e hc hn hl hr =>
    exact .added (newcomer t i s) (newcomer_uid_ne h) fun o ho => (nomatch ho)
  | provisioned hc hn hl =>
    rw [touchLogin_withNewcomer h]
    exact .added _ (newcomer_uid_ne (t := t) (i := i) h) fun o ho => (Option.some.inj ho).symm
  | unreadableLink | linkedBlocked | unreadableName | bypassing | linkedElsewhere | rejected
  | linkRefused | associatedBlocked | creationDisabled | provisionRefused => exact .none

/-- A mapping leaves the links as they were, or it adds one. -/
theorem Ending.authmaps_cases (hend : Ending t i s result s') :
    s'.authmaps = s.authmaps ∨ ∃ m, s'.authmaps = s.authmaps ++ [m] := by
  cases hend with
  | associatedBlocked | associated | provisionUnreadable | provisioned => exact .inr ⟨_, rfl⟩
  | unreadableLink | linkedBlocked | linked | unreadableName | bypassing | linkedElsewhere
  | rejected | linkRefused | creationDisabled | provisionRefused => exact .inl rfl

end Mapping

namespace LoginRequest

variable {r : Realm} {c : Authentication} {now : Instant} {q : LoginRequest}

theorem attempt_touched (h : s.WellFormed) :
    Touched ((q.attempt r c now s).result.toOption.map Outcome.account) s.accounts
      (q.attempt r c now s).store.accounts := by
  cases hresult : (q.attempt r c now s).result with
  | ok o =>
    rcases attempt_ok hresult with ⟨a, hlocal⟩ | ⟨i, grants, happ⟩
    · obtain ⟨name, secret, -, -, -, hname, -⟩ := hlocal.given
      rw [hlocal.touched, hlocal.outcome]
      exact .modify h (Store.accountByName_eq_some hname).1 rfl fun o ho => (Option.some.inj ho).symm
    · exact happ.ending.touched h
  | error f =>
    rcases attempt_error hresult with hstore | ⟨i, grants, -, hrun⟩
    · rw [hstore]
      exact .none
    · exact (Mapping.ending_of_run hrun).touched h

theorem attempt_authmaps (r : Realm) (c : Authentication) (now : Instant) (s : Store)
    (q : LoginRequest) :
    (q.attempt r c now s).store.authmaps = s.authmaps ∨
      ∃ m, (q.attempt r c now s).store.authmaps = s.authmaps ++ [m] := by
  rcases q.attempt_store r c now s with h | ⟨uid, h⟩ | ⟨t, i, h⟩
  · rw [h]
    exact .inl rfl
  · rw [h]
    exact .inl rfl
  · rw [h]
    exact (Mapping.map_ending t i s).authmaps_cases

end LoginRequest

/-- What a login, with its `result`, does to a service, and what it leaves alone. -/
structure LoginFrame (result : Except Failure Outcome) (before after : Service) : Prop where
  accounts : Touched (result.toOption.map Outcome.account) before.store.accounts
    after.store.accounts
  authmaps : after.store.authmaps = before.store.authmaps ∨
    ∃ m, after.store.authmaps = before.store.authmaps ++ [m]
  settings : after.store.settings = before.store.settings
  live : after.live = before.live

/-- No login does more than its frame permits, whether it succeeds or fails. -/
theorem Service.login_frame (r : Realm) (now : Instant) (q : LoginRequest) (s : Service)
    (h : s.store.WellFormed) :
    LoginFrame (q.attempt r s.live now s.store).result s (s.step ⟨r, now, .login q⟩) where
  accounts := q.attempt_touched h
  authmaps := q.attempt_authmaps r s.live now s.store
  settings := q.attempt_keeps_settings r s.live now s.store
  live := rfl

theorem sample_blockedStore_wellFormed : Sample.blockedStore.WellFormed :=
  Store.perform_wellFormed (Store.perform_wellFormed .empty
    (.createAccount ⟨"hpotter", none, none, false, []⟩ Sample.now)) (.setStatus 2 .blocked)

/-- The login of a person who is turned away touches a link, and nothing else. -/
theorem sample_login_frame :
    Sample.blockedStore.WellFormed ∧
      LoginFrame
        (login Sample.realm Sample.associating Sample.now "hpotter" "pass"
          Sample.blockedStore).result
        ⟨Sample.blockedStore, Sample.associating⟩
        (Service.step ⟨Sample.blockedStore, Sample.associating⟩
          ⟨Sample.realm, Sample.now, .login (.password "hpotter" "pass")⟩) :=
  ⟨sample_blockedStore_wellFormed, Service.login_frame Sample.realm Sample.now
    (.password "hpotter" "pass") ⟨Sample.blockedStore, Sample.associating⟩
    sample_blockedStore_wellFormed⟩

end DirectoryLogin
