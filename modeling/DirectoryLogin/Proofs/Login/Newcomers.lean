import DirectoryLogin.Proofs.Login.Mapping
import DirectoryLogin.Proofs.Login.Request

/-!
# The accounts that logins make

A login makes one account or none, and it tells by its outcome which it is, unless the clock shows a
time that cannot be read back from the store: then it makes an account and fails.

* `makes`: the result tells of a new account;
* `attempt_accounts_length`: where the clock can be read back, as many accounts are added as the
  result tells of.
-/

namespace DirectoryLogin

open Settings (Authentication)
open Time (Instant)

variable {s s' : Store}

theorem Store.length_modify (s : Store) (uid : Int) (change : Account → Account) :
    (s.modify uid change).accounts.length = s.accounts.length := List.length_map _

/-- The person logged in has an account since this login. -/
def makes (result : Except Failure Outcome) : Bool := result.toOption.any (·.provisioned)

/-- Where the clock can be read back, a mapping adds the account that it tells of and no other. -/
theorem Mapping.Ending.accounts_length {t : Mapping.Terms} {i : Identity}
    {result : Except Failure Mapped} (h : Ending t i s result s')
    (hnow : Time.fourDigitYear t.now = true) :
    s'.accounts.length =
      s.accounts.length + if result.toOption.any (·.provisioned) then 1 else 0 := by
  have hadded : (withNewcomer t i s).accounts.length = s.accounts.length + 1 :=
    List.length_append
  cases h with
  | linked => exact s.length_modify _ _
  | associated a => exact (withLink s i a).length_modify _ _
  | provisionUnreadable e _ _ _ hread =>
    have hreadable : Store.readAccount (newcomer t i s) = .ok (newcomer t i s) :=
      Store.readAccount_row (fresh t i) false t.now hnow
    exact absurd (hread.symm.trans hreadable) (by simp)
  | provisioned => exact ((withNewcomer t i s).length_modify _ _).trans hadded
  | unreadableLink | linkedBlocked | unreadableName | bypassing | linkedElsewhere | rejected
  | linkRefused | associatedBlocked | creationDisabled | provisionRefused => rfl

theorem Login.Approval.accounts_length {r : Realm} {c : Authentication} {now : Instant}
    {found : Resolution} {method : String → LoginMethod} {a : Attempt}
    (h : Approval r c now found method s a) (hnow : Time.fourDigitYear now = true) :
    a.store.accounts.length = s.accounts.length + if makes a.result then 1 else 0 := by
  cases h with
  | unresolved | turnedAway => rfl
  | mapped i grants result s' _ _ hrun =>
    have hlength := (Mapping.ending_of_run hrun).accounts_length hnow
    cases result with
    | error => exact hlength
    | ok => exact hlength

theorem Login.withLocalPassword_accounts_length (now : Instant) (a : Account) (secret : String)
    (s : Store) :
    (withLocalPassword now a secret s).store.accounts.length = s.accounts.length ∧
      makes (withLocalPassword now a secret s).result = false := by
  unfold withLocalPassword
  split
  · exact ⟨rfl, rfl⟩
  · split
    · exact ⟨rfl, rfl⟩
    · exact ⟨s.length_modify a.uid _, rfl⟩

theorem LoginRequest.makes_finish (c : Authentication) (q : LoginRequest)
    (result : Except Failure Outcome) : makes (result.map (q.finish c)) = makes result := by
  cases result with
  | error => rfl
  | ok o => exact (q.finish_eq c o).2.2

/-- Where the clock can be read back, a login adds the account that it tells of and no other. -/
theorem LoginRequest.attempt_accounts_length (r : Realm) (c : Authentication) {now : Instant}
    (s : Store) (q : LoginRequest) (hnow : Time.fourDigitYear now = true) :
    (q.attempt r c now s).store.accounts.length =
      s.accounts.length + if makes (q.attempt r c now s).result then 1 else 0 := by
  have hcourse := attempt_course r c now s q
  generalize q.attempt r c now s = a at hcourse ⊢
  cases hcourse with
  | refused => rfl
  | locally name secret a =>
    obtain ⟨hlength, hnone⟩ := Login.withLocalPassword_accounts_length now a secret s
    rw [hlength, hnone]
    rfl
  | searched _ found a _ happroval =>
    rw [makes_finish]
    exact happroval.accounts_length hnow

end DirectoryLogin
