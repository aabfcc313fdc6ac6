import DirectoryLogin.Proofs.Login.Admission
import DirectoryLogin.Proofs.Login.Mask
import DirectoryLogin.Proofs.Login.OwnerCheck

/-!
# When a local password counts

A local password logs its owner in where the directory has no say in the account: the account
bypasses it, or the mode is mixed and no identity of the directory is linked. Where it does not
count or is wrong, the login goes on as if the account had none.

* `CountsFor`, `settledLocally_iff`: the use of a local password;
* `login_named`: what a login under the name of an account comes to;
* `Mask.forget`, `login_forget`: a password that is wrong might as well not be there;
* `local_password_exact`: all of it.
-/

namespace DirectoryLogin

open Settings (Authentication)
open Time (Instant)

variable {r : Realm} {c : Authentication} {now : Instant} {s : Store} {name password : String}
  {a : Account} {o : Outcome}

/-! ## The use of a local password -/

/-- A local password is good for a login: the account is the site owner's or excluded from the
directory, or the mode is mixed and the account has no link. -/
inductive CountsFor (c : Authentication) (s : Store) (a : Account) : Prop
  | owner (h : a.uid = siteOwnerUid)
  | excluded (h : a.ldapExcluded = true)
  | unlinked (hmode : c.mode = .mixed) (hlink : s.authmap a.uid directoryModule = none)

theorem bypassesDirectory_iff :
    a.bypassesDirectory = true ↔ a.uid = siteOwnerUid ∨ a.ldapExcluded = true := by
  simp [Account.bypassesDirectory, Account.isSiteOwner]

theorem acceptsPassword_iff : a.acceptsPassword password = true ↔
    ∃ hash, a.passHash = some hash ∧ passwordAccepted hash password = true := by
  constructor
  · exact LoginRequest.acceptsPassword_eq_true
  · rintro ⟨hash, hhash, haccepted⟩
    simpa only [Account.acceptsPassword, hhash] using haccepted

namespace Login

theorem settledLocally_eq (c : Authentication) (s : Store) (a : Account) (password : String) :
    settledLocally c s a password =
      (a.bypassesDirectory ||
        (c.mode == .mixed && (s.authmap a.uid directoryModule).isNone &&
          a.acceptsPassword password)) := by
  unfold settledLocally localUse
  cases a.bypassesDirectory with
  | true => rfl
  | false =>
    cases haccepted : a.acceptsPassword password with
    | false =>
      rw [Bool.and_false, Bool.or_false]
      cases c.mode == .mixed && a.passHash.isSome &&
        (s.authmap a.uid directoryModule).isNone <;> rfl
    | true =>
      obtain ⟨hash, hhash, -⟩ := acceptsPassword_iff.mp haccepted
      rw [hhash, Option.isSome_some, Bool.and_true, Bool.and_true, Bool.false_or]
      cases c.mode == .mixed && (s.authmap a.uid directoryModule).isNone <;> rfl

/-- A password that is right settles the login just where it counts. -/
theorem settledLocally_iff (h : a.acceptsPassword password = true) :
    settledLocally c s a password = true ↔ CountsFor c s a := by
  rw [settledLocally_eq, h, Bool.and_true, Bool.or_eq_true, bypassesDirectory_iff,
    Bool.and_eq_true, beq_iff_eq, Option.isNone_iff_eq_none]
  constructor
  · rintro ((howner | hexcluded) | ⟨hmode, hlink⟩)
    · exact .owner howner
    · exact .excluded hexcluded
    · exact .unlinked hmode hlink
  · intro hcounts
    cases hcounts with
    | owner h => exact .inl (.inl h)
    | excluded h => exact .inl (.inr h)
    | unlinked hmode hlink => exact .inr ⟨hmode, hlink⟩

/-- A password that is wrong settles the login of an account that bypasses the directory only. -/
theorem settledLocally_of_rejected (h : a.acceptsPassword password = false) :
    settledLocally c s a password = a.bypassesDirectory := by
  rw [settledLocally_eq, h, Bool.and_false, Bool.or_false]

theorem withLocalPassword_of_rejected (h : a.acceptsPassword password = false) :
    withLocalPassword now a password s = refuse .invalidCredentials s := by
  simp [withLocalPassword, h]

theorem withLocalPassword_ok_iff : (∃ o, (withLocalPassword now a password s).result = .ok o) ↔
    a.acceptsPassword password = true ∧ a.status = .active := by
  constructor
  · rintro ⟨o, ho⟩
    obtain ⟨haccepted, hactive, -⟩ := LoginRequest.withLocalPassword_ok ho
    exact ⟨haccepted, hactive⟩
  · rintro ⟨haccepted, hactive⟩
    exact ⟨_, by simp [withLocalPassword, haccepted, Account.isActive, hactive]; rfl⟩

theorem withLocalPassword_method (h : (withLocalPassword now a password s).result = .ok o) :
    o.method = .localPassword := by
  rw [(LoginRequest.withLocalPassword_ok h).2.2.1]

theorem withDirectoryPassword_method
    (h : (withDirectoryPassword r c now name password s).result = .ok o) :
    o.method ≠ .localPassword := by
  have happroval := approveResolved_approval r c now
    (Resolution.ofCredentials r.registry c name password) .directory s
  rw [← withDirectoryPassword] at happroval
  generalize withDirectoryPassword r c now name password s = t at happroval h
  cases happroval with
  | unresolved f hf => cases h
  | turnedAway i f hi hg => cases h
  | mapped i grants result s' hi hg hm =>
    cases result with
    | error f => cases h
    | ok m =>
      cases h
      exact nofun

end Login

/-- A login under the name of an account is settled by its local password, or it is left to the
directory. -/
theorem login_named (hname : Text.trim name ≠ "") (hpassword : password ≠ "")
    (hfound : s.accountByName (Text.trim name) = .ok (some a)) :
    login r c now name password s =
      if Login.settledLocally c s a password then Login.withLocalPassword now a password s
      else Login.withDirectoryPassword r c now (Text.trim name) password s := by
  rw [login_given ⟨hname, hpassword⟩, hfound]

/-- Only the password of the account that has the name logs in locally. -/
theorem login_local_found (ho : (login r c now name password s).result = .ok o)
    (hm : o.method = .localPassword) :
    Text.trim name ≠ "" ∧ password ≠ "" ∧
      ∃ a, s.accountByName (Text.trim name) = .ok (some a) := by
  rw [← LoginRequest.attempt_password] at ho
  rcases LoginRequest.attempt_ok ho with ⟨a, hlocal⟩ | ⟨i, grants, happ⟩
  · obtain ⟨name', password', hq, hname, hpassword, hfound, -⟩ := hlocal.given
    cases hq
    exact ⟨hname, hpassword, a, by rw [Store.accountByName_trim, hfound]⟩
  · exact absurd (happ.method.symm.trans hm) (LoginRequest.method_ne_local _ _)

theorem login_local_iff : (∃ o, (login r c now name password s).result = .ok o ∧
      o.method = .localPassword) ↔
    Text.trim name ≠ "" ∧ password ≠ "" ∧ ∃ a hash,
      s.accountByName (Text.trim name) = .ok (some a) ∧ a.passHash = some hash ∧
        passwordAccepted hash password = true ∧ a.status = .active ∧ CountsFor c s a := by
  constructor
  · rintro ⟨o, ho, hm⟩
    obtain ⟨hname, hpassword, a, hfound⟩ := login_local_found ho hm
    rw [login_named hname hpassword hfound] at ho
    cases hsettled : Login.settledLocally c s a password with
    | false =>
      rw [hsettled, if_neg Bool.false_ne_true] at ho
      exact absurd hm (Login.withDirectoryPassword_method ho)
    | true =>
      rw [hsettled, if_pos rfl] at ho
      obtain ⟨haccepted, hactive⟩ := Login.withLocalPassword_ok_iff.mp ⟨o, ho⟩
      obtain ⟨hash, hhash, hverified⟩ := acceptsPassword_iff.mp haccepted
      exact ⟨hname, hpassword, a, hash, hfound, hhash, hverified, hactive,
        (Login.settledLocally_iff haccepted).mp hsettled⟩
  · rintro ⟨hname, hpassword, a, hash, hfound, hhash, hverified, hactive, hcounts⟩
    have haccepted := acceptsPassword_iff.mpr ⟨hash, hhash, hverified⟩
    have hsettled := (Login.settledLocally_iff haccepted).mpr hcounts
    rw [login_named hname hpassword hfound, if_pos hsettled]
    obtain ⟨o, ho⟩ := Login.withLocalPassword_ok_iff.mpr ⟨haccepted, hactive⟩
    exact ⟨o, ho, Login.withLocalPassword_method ho⟩

/-! ## A password that is wrong -/

namespace Mask

/-- The account with a uid loses its hash. -/
def forget (uid : Int) : Mask where
  hash u hash := if u = uid then none else hash
  hash_none u := by split <;> rfl

theorem forget_account (a : Account) : (forget a.uid).account a = { a with passHash := none } := by
  simp [account, forget]

end Mask

/-- Where the password is wrong, the login does what it does without a stored hash. -/
theorem login_forget (hfound : s.accountByName (Text.trim name) = .ok (some a))
    (hrejected : a.acceptsPassword password = false) :
    login r c now name password ((Mask.forget a.uid).store s) =
      (Mask.forget a.uid).attempt (login r c now name password s) := by
  by_cases hgiven : Text.trim name ≠ "" ∧ password ≠ ""
  · have hmasked : ((Mask.forget a.uid).store s).accountByName (Text.trim name) =
        .ok (some { a with passHash := none }) := by
      rw [Mask.accountByName_store, hfound, ← Mask.forget_account]
      rfl
    have hforgotten : Account.acceptsPassword { a with passHash := none } password = false := rfl
    have hbypasses : Account.bypassesDirectory { a with passHash := none } =
        a.bypassesDirectory := rfl
    rw [login_named hgiven.1 hgiven.2 hmasked, login_named hgiven.1 hgiven.2 hfound,
      Login.settledLocally_of_rejected hforgotten, Login.settledLocally_of_rejected hrejected,
      Login.withLocalPassword_of_rejected hforgotten, Login.withLocalPassword_of_rejected hrejected,
      hbypasses, Mask.withDirectoryPassword_store]
    split
    · rfl
    · rfl
  · rw [login_blank hgiven, login_blank hgiven]
    rfl

/-- A local password logs in where it is right, its account is active and it counts. Where the
account bypasses the directory, no directory is asked. In mixed mode, a password that is wrong for
an account without a link changes nothing about the login. -/
theorem local_password_exact (r : Realm) (c : Authentication) (now : Instant) (s : Store)
    (name password : String) :
    ((∃ o, (login r c now name password s).result = .ok o ∧ o.method = .localPassword) ↔
      Text.trim name ≠ "" ∧ password ≠ "" ∧ ∃ a hash,
        s.accountByName (Text.trim name) = .ok (some a) ∧ a.passHash = some hash ∧
          passwordAccepted hash password = true ∧ a.status = .active ∧ CountsFor c s a) ∧
    ∀ a, s.accountByName (Text.trim name) = .ok (some a) →
      (a.uid = siteOwnerUid ∨ a.ldapExcluded = true →
        (login r c now name password s).questions = []) ∧
      (c.mode = .mixed → s.authmap a.uid directoryModule = none →
        a.acceptsPassword password = false →
        login r c now name password ((Mask.forget a.uid).store s) =
          (Mask.forget a.uid).attempt (login r c now name password s)) := by
  refine ⟨login_local_iff, fun a hfound => ⟨fun hbypasses => ?_, fun _ _ hrejected => ?_⟩⟩
  · rw [Store.accountByName_trim] at hfound
    have hsearch := LoginRequest.passwordSearch?_bypassing (r := r) (c := c) password hfound
      (bypassesDirectory_iff.mpr hbypasses)
    rw [← LoginRequest.attempt_password]
    exact LoginRequest.attempt_questions_nil hsearch
  · exact login_forget hfound hrejected

/-- The owner of the sample site logs in with the password of the site. -/
theorem sample_local_password :
    (∃ o, (login Sample.realm Sample.settings Sample.now "admin" "secret"
        (Sample.owned "secret").store).result = .ok o ∧ o.method = .localPassword) ∧
      (login Sample.realm Sample.settings Sample.now "admin" "secret"
        (Sample.owned "secret").store).questions = [] := by
  have hnamed := (owned_credentials "secret").named
  rw [← Store.accountByName_trim] at hnamed
  obtain ⟨hash, hhash, hverified⟩ := acceptsPassword_iff.mp (owned_credentials "secret").accepted
  have hexact := local_password_exact Sample.realm Sample.settings Sample.now
    (Sample.owned "secret").store "admin" "secret"
  exact ⟨hexact.1.mpr ⟨by decide +kernel, by decide, _, hash, hnamed, hhash, hverified, rfl,
    .owner rfl⟩, (hexact.2 _ hnamed).1 (.inl rfl)⟩

end DirectoryLogin
