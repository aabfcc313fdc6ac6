import DirectoryLogin.Account.Store

/-!
# Calls on the store and scripts of calls

A `Call` is one operation on the store, which happens as a whole. A `Script` is an activity that
makes calls one after another, each depending on the answers before. `Script.run` performs a
script without interruption; since a script says at each point what it will ask for next, several
of them can also be taken a call at a time in any order.

Two things are asked of the surroundings of `Store.perform`.

* The medium under the store does not fail: a call is refused for the reasons of `StoreError` and
  for no other, and what a call has written stays written.
* The clock shows a year of four digits. A call in another year takes place, and what it wrote
  cannot be read afterwards; statements in which this matters name it as `Time.fourDigitYear`, and
  all others hold at any time.
-/

namespace DirectoryLogin

open Time (Instant)

/-- One operation on the store. -/
inductive Store.Call where
  | createAccount (n : NewAccount) (now : Instant)
  | ensureSiteOwner (n : NewAccount) (now : Instant)
  | account (uid : Int)
  | accountByName (name : String)
  | listAccounts
  | updateMail (uid : Int) (mail : Option String)
  | updateRoles (uid : Int) (roles : List String)
  | setStatus (uid : Int) (status : Account.Status)
  | setLdapExcluded (uid : Int) (excluded : Bool)
  | touchLogin (uid : Int) (at_ : Instant)
  | accountByAuthname (module authname : String)
  | authmap (uid : Int) (module : String)
  | createAuthmap (uid : Int) (module authname : String)
  | provisionAccount (n : NewAccount) (module authname : String) (now : Instant)
  | saveSettings (name text : String)
  | savedSettings (name : String)
  /-- Asks whether the store answers. -/
  | healthCheck
  /-- Closes the store and opens it again; nothing is lost. -/
  | reopen
  deriving DecidableEq, Repr

/-- The kind of answer to a call. -/
abbrev Store.Call.Reply : Store.Call → Type
  | createAccount .. | ensureSiteOwner .. | provisionAccount .. => Account
  | account .. | accountByName .. | accountByAuthname .. => Option Account
  | listAccounts => List Account
  | authmap .. => Option Authmap
  | createAuthmap .. => Authmap
  | savedSettings .. => Option String
  | updateMail .. | updateRoles .. | setStatus .. | setLdapExcluded .. | touchLogin ..
  | saveSettings .. | healthCheck | reopen => Unit

/-- Performs a call. -/
def Store.perform (s : Store) : (c : Store.Call) → Answer c.Reply
  | .createAccount n now => s.createAccount n now
  | .ensureSiteOwner n now => s.ensureSiteOwner n now
  | .account uid => (s.account uid, s)
  | .accountByName name => (s.accountByName name, s)
  | .listAccounts => (s.listAccounts, s)
  | .updateMail uid mail => (.ok (), s.updateMail uid mail)
  | .updateRoles uid roles => (.ok (), s.updateRoles uid roles)
  | .setStatus uid status => (.ok (), s.setStatus uid status)
  | .setLdapExcluded uid excluded => (.ok (), s.setLdapExcluded uid excluded)
  | .touchLogin uid at_ => (.ok (), s.touchLogin uid at_)
  | .accountByAuthname module authname => (s.accountByAuthname module authname, s)
  | .authmap uid module => (.ok (s.authmap uid module), s)
  | .createAuthmap uid module authname => s.createAuthmap uid module authname
  | .provisionAccount n module authname now => s.provisionAccount n module authname now
  | .saveSettings name text => (.ok (), s.saveSettings name text)
  | .savedSettings name => (.ok (s.savedSettings name), s)
  | .healthCheck => (.ok (), s)
  | .reopen => (.ok (), s)

/-- An activity that makes calls on the store and ends with a result or a failure of type `ε`. -/
inductive Store.Script (ε α : Type) where
  | done (result : Except ε α)
  | call (c : Store.Call) (next : Except StoreError c.Reply → Store.Script ε α)

namespace Store.Script

variable {ε α β : Type}

/-- Goes on with the result of a script, if it does not fail. -/
def bind (m : Script ε α) (f : α → Script ε β) : Script ε β :=
  match m with
  | done (.ok a) => f a
  | done (.error e) => done (.error e)
  | call c next => call c fun r => (next r).bind f

instance : Monad (Script ε) where
  pure a := done (.ok a)
  bind := bind

/-- Fails. -/
def fail (e : ε) : Script ε α := done (.error e)

/-- Makes one call; `wrap` makes the store's refusal a failure of the script. -/
def ask (wrap : StoreError → ε) (c : Call) : Script ε c.Reply :=
  call c fun r => done (r.mapError wrap)

/-- Performs a script without interruption. -/
def run (m : Script ε α) (s : Store) : Except ε α × Store :=
  match m with
  | done r => (r, s)
  | call c next =>
    let (r, s) := s.perform c
    (next r).run s

end Store.Script

end DirectoryLogin
