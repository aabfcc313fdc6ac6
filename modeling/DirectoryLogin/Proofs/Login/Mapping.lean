import DirectoryLogin.Login.Mapping
import DirectoryLogin.Proofs.Account.Script
import DirectoryLogin.Proofs.Account.Store

/-!
# What a mapping comes to

A mapping asks the store one call after another. Run without interruption it comes to one of a few
endings, each with its conditions on the store before, its result, and the store that it leaves.

* `update`: what a login writes into the account of its identity;
* `run_refresh_active`, `run_refresh_blocked`: a linked account is updated unless it is blocked;
* `Ending` and `map_ending`: all the ways in which a mapping can end.
-/

namespace DirectoryLogin.Mapping

open Store (Script)
open Time (Instant)

variable {t : Terms} {i : Identity} {s s' : Store} {a : Account} {mail : Option String}

/-! ## Updates -/

/-- The mail address is copied to an account that has another one. -/
def mailWritten (t : Terms) (mail : Option String) (a : Account) : Bool :=
  t.settings.mailUpdate == .onEveryLogin && mail.isSome && a.mail != mail

/-- The roles are copied to an account that has others. -/
def rolesWritten (t : Terms) (a : Account) : Bool := t.syncRoles && a.roles != t.grants

def writeMail (t : Terms) (mail : Option String) (a : Account) (row : Account) : Account :=
  { row with mail := if mailWritten t mail a then mail else row.mail }

def writeRoles (t : Terms) (a : Account) (row : Account) : Account :=
  { row with roles := if rolesWritten t a then t.grants else row.roles }

/-- What a login writes into a stored row, after it has read the account `a`. -/
def update (t : Terms) (mail : Option String) (a : Account) (row : Account) : Account :=
  { row with
    mail := if mailWritten t mail a then mail else row.mail
    roles := if rolesWritten t a then t.grants else row.roles
    lastLogin := some t.now }

theorem run_refreshMail (t : Terms) (mail : Option String) (a : Account) (s : Store) :
    (refreshMail t mail a).run s =
      (.ok (writeMail t mail a a), s.modify a.uid (writeMail t mail a)) := by
  cases hw : mailWritten t mail a with
  | false =>
    have hf : writeMail t mail a = fun row => row := by
      funext row
      simp [writeMail, hw]
    rw [hf, Store.modify_id]
    cases hu : t.settings.mailUpdate with
    | never => simp [refreshMail, hu]
    | onEveryLogin =>
      cases mail with
      | none => simp [refreshMail, hu]
      | some m =>
        have hm : a.mail = some m := by simpa [mailWritten, hu] using hw
        simp [refreshMail, hu, hm]
  | true =>
    have hf : writeMail t mail a = fun row => { row with mail } := by
      funext row
      simp [writeMail, hw]
    rw [hf]
    simp only [mailWritten, Bool.and_eq_true, beq_iff_eq, bne_iff_ne, ne_eq] at hw
    obtain ⟨⟨hu, hm⟩, hne⟩ := hw
    obtain ⟨m, rfl⟩ := Option.isSome_iff_exists.mp hm
    simp only [refreshMail, hu, if_neg hne]
    rfl

theorem run_refreshRoles (t : Terms) (a : Account) (s : Store) :
    (refreshRoles t a).run s = (.ok (writeRoles t a a), s.modify a.uid (writeRoles t a)) := by
  cases hw : rolesWritten t a with
  | false =>
    have hf : writeRoles t a = fun row => row := by
      funext row
      simp [writeRoles, hw]
    rw [hf, Store.modify_id]
    simp only [rolesWritten] at hw
    simp [refreshRoles, hw]
  | true =>
    have hf : writeRoles t a = fun row => { row with roles := t.grants } := by
      funext row
      simp [writeRoles, hw]
    rw [hf]
    simp only [rolesWritten] at hw
    simp only [refreshRoles, hw, ↓reduceIte]
    rfl

theorem run_refresh_blocked (h : a.status = .blocked) :
    (refresh t mail a).run s = (.error (.disallowed .blockedAccount), s) := by
  simp [refresh, h]

theorem run_refresh_active (h : a.status = .active) :
    (refresh t mail a).run s = (.ok (update t mail a a), s.modify a.uid (update t mail a)) := by
  simp only [refresh, h, reduceCtorEq, ↓reduceIte]
  rw [Script.run_bind_ok (run_refreshMail t mail a s), Script.run_bind_ok (run_refreshRoles _ _ _)]
  -- The three writes go to the same rows, because none of them changes a uid.
  have htwo : (s.modify a.uid (writeMail t mail a)).modify a.uid
        (writeRoles t (writeMail t mail a a)) =
      s.modify a.uid (writeRoles t (writeMail t mail a a) ∘ writeMail t mail a) :=
    s.modify_modify fun _ => rfl
  show (Except.ok (update t mail a a), Store.touchLogin _ a.uid t.now) = _
  rw [show (writeMail t mail a a).uid = a.uid from rfl, htwo]
  exact congrArg (Prod.mk _) (s.modify_modify fun _ => rfl)

/-! ## Endings -/

/-- The identity has no link, and the account of its name may be linked to it. -/
structure Linkable (t : Terms) (i : Identity) (s : Store) (a : Account) : Prop where
  unlinked : s.accountByAuthname directoryModule i.authname = .ok none
  named : s.accountByName i.accountName = .ok (some a)
  open_ : a.bypassesDirectory = false
  free : s.authmap a.uid directoryModule = none
  allowed : t.settings.existingAccount = .associate

/-- The identity has neither a link nor an account of its name, and one may be made. -/
structure Creatable (t : Terms) (i : Identity) (s : Store) : Prop where
  unlinked : s.accountByAuthname directoryModule i.authname = .ok none
  unnamed : s.accountByName i.accountName = .ok none
  allowed : t.settings.accountCreation = .createOnLogin

/-- The store with an account linked to the identity. -/
def withLink (s : Store) (i : Identity) (a : Account) : Store :=
  s.addAuthmap (s.nextAuthmap a.uid directoryModule i.authname)

/-- The request for the account of an identity. -/
def fresh (t : Terms) (i : Identity) : NewAccount :=
  ⟨i.accountName, mailFor t.settings i, none, false, t.grants⟩

/-- The account made for an identity. -/
def newcomer (t : Terms) (i : Identity) (s : Store) : Account :=
  s.nextAccount (fresh t i) false t.now

/-- The store with the account made for an identity, and its link. -/
def withNewcomer (t : Terms) (i : Identity) (s : Store) : Store :=
  s.addLinked (newcomer t i s) directoryModule i.authname

/-- All that a mapping can come to: its result and the store that it leaves. -/
inductive Ending (t : Terms) (i : Identity) (s : Store) : Except Failure Mapped → Store → Prop
  | unreadableLink (e : StoreError) :
      s.accountByAuthname directoryModule i.authname = .error e → Ending t i s (.error (.store e)) s
  | linkedBlocked (a : Account) :
      s.accountByAuthname directoryModule i.authname = .ok (some a) → a.status = .blocked →
      Ending t i s (.error (.disallowed .blockedAccount)) s
  | linked (a : Account) :
      s.accountByAuthname directoryModule i.authname = .ok (some a) → a.status = .active →
      Ending t i s (.ok ⟨update t (mailFor t.settings i) a a, false⟩)
        (s.modify a.uid (update t (mailFor t.settings i) a))
  | unreadableName (e : StoreError) :
      s.accountByAuthname directoryModule i.authname = .ok none →
      s.accountByName i.accountName = .error e → Ending t i s (.error (.store e)) s
  | bypassing (a : Account) :
      s.accountByAuthname directoryModule i.authname = .ok none →
      s.accountByName i.accountName = .ok (some a) → a.bypassesDirectory = true →
      Ending t i s (.error (.disallowed .excludedAccount)) s
  | linkedElsewhere (a : Account) (m : Authmap) :
      s.accountByAuthname directoryModule i.authname = .ok none →
      s.accountByName i.accountName = .ok (some a) → a.bypassesDirectory = false →
      s.authmap a.uid directoryModule = some m →
      Ending t i s (.error (.unlinkable (.linkedElsewhere a.name))) s
  | rejected (a : Account) :
      s.accountByAuthname directoryModule i.authname = .ok none →
      s.accountByName i.accountName = .ok (some a) → a.bypassesDirectory = false →
      s.authmap a.uid directoryModule = none → t.settings.existingAccount = .reject →
      Ending t i s (.error (.unlinkable (.accountExists a.name))) s
  | linkRefused (a : Account) (e : StoreError) :
      Linkable t i s a → s.createAuthmap a.uid directoryModule i.authname = (.error e, s) →
      Ending t i s (.error (.store e)) s
  | associatedBlocked (a : Account) :
      Linkable t i s a → s.link? directoryModule i.authname = none → a.status = .blocked →
      Ending t i s (.error (.disallowed .blockedAccount)) (withLink s i a)
  | associated (a : Account) :
      Linkable t i s a → s.link? directoryModule i.authname = none → a.status = .active →
      Ending t i s (.ok ⟨update t (mailFor t.settings i) a a, false⟩)
        ((withLink s i a).modify a.uid (update t (mailFor t.settings i) a))
  | creationDisabled :
      s.accountByAuthname directoryModule i.authname = .ok none →
      s.accountByName i.accountName = .ok none → t.settings.accountCreation = .existingOnly →
      Ending t i s (.error (.unlinkable (.creationDisabled i.accountName))) s
  | provisionRefused (e : StoreError) :
      Creatable t i s →
      s.provisionAccount (fresh t i) directoryModule i.authname t.now = (.error e, s) →
      Ending t i s (.error (.store e)) s
  | provisionUnreadable (e : StoreError) :
      Creatable t i s → s.nameTaken i.accountName = false →
      s.link? directoryModule i.authname = none → Store.readAccount (newcomer t i s) = .error e →
      Ending t i s (.error (.store e)) (withNewcomer t i s)
  | provisioned :
      Creatable t i s → s.nameTaken i.accountName = false →
      s.link? directoryModule i.authname = none →
      Ending t i s (.ok ⟨{ newcomer t i s with lastLogin := some t.now }, true⟩)
        ((withNewcomer t i s).touchLogin (newcomer t i s).uid t.now)

theorem run_ask_ok {c : Store.Call} {r : c.Reply} (h : s.perform c = (.ok r, s')) :
    (ask c).run s = (.ok r, s') :=
  Script.run_ask_ok h

theorem run_ask_error {c : Store.Call} {e : StoreError} (h : s.perform c = (.error e, s')) :
    (ask c).run s = (.error (.store e), s') :=
  Script.run_ask_error h

theorem run_mapped (m : Script Failure Account) (provisioned : Bool) (s : Store) :
    (m >>= fun a => pure (⟨a, provisioned⟩ : Mapped)).run s =
      ((m.run s).1.map fun a => ⟨a, provisioned⟩, (m.run s).2) := by
  cases h : m.run s with
  | mk result s' =>
    cases result with
    | ok a => rw [Script.run_bind_ok h]; rfl
    | error e => rw [Script.run_bind_error h]; rfl

theorem refresh_ending (h : s.accountByAuthname directoryModule i.authname = .ok (some a)) :
    Ending t i s (((refresh t (mailFor t.settings i) a).run s).1.map fun a => ⟨a, false⟩)
      ((refresh t (mailFor t.settings i) a).run s).2 := by
  cases hs : a.status with
  | blocked =>
    rw [run_refresh_blocked hs]
    exact .linkedBlocked a h hs
  | active =>
    rw [run_refresh_active hs]
    exact .linked a h hs

theorem associate_ending (hl : s.accountByAuthname directoryModule i.authname = .ok none)
    (hn : s.accountByName i.accountName = .ok (some a)) :
    Ending t i s
      (((associate t i.authname (mailFor t.settings i) a).run s).1.map fun a => ⟨a, false⟩)
      ((associate t i.authname (mailFor t.settings i) a).run s).2 := by
  cases hb : a.bypassesDirectory with
  | true =>
    simp only [associate, hb, ↓reduceIte]
    exact .bypassing a hl hn hb
  | false =>
    simp only [associate, hb, Bool.false_eq_true, ↓reduceIte]
    rw [Script.run_bind_ok (run_ask_ok rfl)]
    cases hm : s.authmap a.uid directoryModule with
    | some m => exact .linkedElsewhere a m hl hn hb hm
    | none =>
      cases hx : t.settings.existingAccount with
      | reject =>
        simp only [↓reduceIte]
        exact .rejected a hl hn hb hm hx
      | associate =>
        simp only [reduceCtorEq, ↓reduceIte]
        have hlink : Linkable t i s a := ⟨hl, hn, hb, hm, hx⟩
        rcases Store.createAuthmap_cases s a.uid directoryModule i.authname with
          ⟨e, he⟩ | ⟨hfree, -, he⟩
        · have hask := run_ask_error (c := .createAuthmap a.uid directoryModule i.authname) he
          rw [Script.run_bind_error hask]
          exact .linkRefused a e hlink he
        · have hask := run_ask_ok (c := .createAuthmap a.uid directoryModule i.authname) he
          rw [Script.run_bind_ok hask]
          cases hs : a.status with
          | blocked =>
            rw [run_refresh_blocked hs]
            exact .associatedBlocked a hlink hfree hs
          | active =>
            rw [run_refresh_active hs]
            exact .associated a hlink hfree hs

theorem provision_ending (h : Creatable t i s) :
    Ending t i s
      (((provision t i.authname (mailFor t.settings i) i.accountName).run s).1.map
        fun a => ⟨a, true⟩)
      ((provision t i.authname (mailFor t.settings i) i.accountName).run s).2 := by
  let c : Store.Call := .provisionAccount (fresh t i) directoryModule i.authname t.now
  show Ending t i s (((ask c >>= fun a => touch a t.now).run s).1.map fun a => ⟨a, true⟩)
    ((ask c >>= fun a => touch a t.now).run s).2
  rcases Store.provisionAccount_cases s (fresh t i) directoryModule i.authname t.now with
    ⟨e, he⟩ | ⟨hn, hl, he⟩
  · have hc : s.perform c = (.error e, s) := he
    rw [Script.run_bind_error (run_ask_error hc)]
    exact .provisionRefused e h he
  · have hc : s.perform c = (Store.readAccount (newcomer t i s), withNewcomer t i s) := he
    cases hr : Store.readAccount (newcomer t i s) with
    | error e =>
      rw [hr] at hc
      rw [Script.run_bind_error (run_ask_error hc)]
      exact .provisionUnreadable e h hn hl hr
    | ok a =>
      obtain rfl := Store.readAccount_eq_ok hr
      rw [hr] at hc
      rw [Script.run_bind_ok (run_ask_ok hc)]
      exact .provisioned h hn hl

/-- Every mapping comes to one of the endings. -/
theorem map_ending (t : Terms) (i : Identity) (s : Store) :
    Ending t i s ((map t i).run s).1 ((map t i).run s).2 := by
  unfold map
  cases hl : s.accountByAuthname directoryModule i.authname with
  | error e =>
    rw [Script.run_bind_error (run_ask_error (by rw [Store.perform, hl]))]
    exact .unreadableLink e hl
  | ok found =>
    rw [Script.run_bind_ok (run_ask_ok (by rw [Store.perform, hl]))]
    cases found with
    | some a =>
      simp only [run_mapped]
      exact refresh_ending hl
    | none =>
      cases hn : s.accountByName i.accountName with
      | error e =>
        simp only
        rw [Script.run_bind_error (run_ask_error (by rw [Store.perform, hn]))]
        exact .unreadableName e hl hn
      | ok named =>
        simp only
        rw [Script.run_bind_ok (run_ask_ok (by rw [Store.perform, hn]))]
        cases named with
        | some a =>
          simp only [run_mapped]
          exact associate_ending hl hn
        | none =>
          cases hc : t.settings.accountCreation with
          | existingOnly =>
            simp only [↓reduceIte]
            exact .creationDisabled hl hn hc
          | createOnLogin =>
            simp only [reduceCtorEq, ↓reduceIte, run_mapped]
            exact provision_ending ⟨hl, hn, hc⟩

theorem ending_of_run {result : Except Failure Mapped} (h : (map t i).run s = (result, s')) :
    Ending t i s result s' := by
  have hend := map_ending t i s
  rwa [h] at hend

/-- An identity whose account is linked and active gets that account. -/
theorem run_map_linked (h : s.accountByAuthname directoryModule i.authname = .ok (some a))
    (hs : a.status = .active) :
    (map t i).run s = (.ok ⟨update t (mailFor t.settings i) a a, false⟩,
      s.modify a.uid (update t (mailFor t.settings i) a)) := by
  unfold map
  rw [Script.run_bind_ok (run_ask_ok (by rw [Store.perform, h]))]
  simp only [run_mapped, run_refresh_active hs]
  rfl

/-! ## Links -/

/-- A mapping that succeeds leaves the identity linked to the account that it returns. -/
theorem Ending.link_of_ok {m : Mapped} (h : Ending t i s (.ok m) s') :
    ∃ l, s'.link? directoryModule i.authname = some l ∧ l.uid = m.account.uid := by
  cases h with
  | linked a hl hs =>
    obtain ⟨l, hlink, -, -, hu⟩ := Store.accountByAuthname_eq_some hl
    exact ⟨l, hlink, hu.symm⟩
  | associated a h hl hs => exact ⟨_, Store.link?_addAuthmap hl, rfl⟩
  | provisioned h hn hl => exact ⟨_, Store.link?_addAuthmap hl, rfl⟩

end DirectoryLogin.Mapping
