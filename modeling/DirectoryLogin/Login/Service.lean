import DirectoryLogin.Json.Document
import DirectoryLogin.Login.Attempt
import DirectoryLogin.Settings.Codec

/-!
# The login service

The store and the settings in force, with the operations that an administrator and the site itself
perform on them. New settings are checked, saved and put in force; a later start takes the saved
ones over if they still pass the check.

* `save` and `apply` are the two steps of `update`;
* `load` puts saved settings in force;
* `ensureSiteOwner`, `createLocalAccount` and `verifySiteOwner` concern local passwords.
-/

namespace DirectoryLogin

open Digest (Bytes)
open Settings (Authentication)
open Time (Instant)

structure Service where
  store : Store
  /-- The settings in force. -/
  live : Authentication
  deriving DecidableEq, Repr

namespace Service

/-- The name under which the authentication settings are saved. -/
def settingsName : String := "ldap_authentication"

/-! ## Settings -/

/-- Saves settings in the store. -/
def save (s : Service) (c : Authentication) : Service :=
  { s with store := s.store.saveSettings settingsName c.toJson.print }

/-- Puts settings in force. -/
def apply (s : Service) (c : Authentication) : Service := { s with live := c }

/-- Checks settings, saves them and puts them in force. -/
def update (r : Realm) (s : Service) (c : Authentication) : Except Failure Unit × Service :=
  match c.check r.registry.sids with
  | .error refusal => (.error (.settings refusal), s)
  | .ok () => (.ok (), (s.save c).apply c)

/-- The saved settings, if they can be read and pass the check. -/
def saved? (r : Realm) (s : Service) : Option Authentication := do
  let text ← s.store.savedSettings settingsName
  let c ← (Authentication.record.reads.ofText text).toOption
  (c.check r.registry.sids).toOption.map fun _ => c

/-- Puts the saved settings in force, and tells whether there were any. -/
def load (r : Realm) (s : Service) : Bool × Service :=
  match s.saved? r with
  | some c => (true, s.apply c)
  | none => (false, s)

/-! ## Local passwords -/

/-- A request for a local account without roles. -/
def newLocal (name : String) (mail : Option String) (passHash : Option String) (excluded : Bool) :
    NewAccount :=
  ⟨name, mail, passHash, excluded, []⟩

/-- The text under which a new password is stored. -/
def hashOf (salt : Bytes) (password : String) : String := (PasswordHash.ofPassword password salt).text

/-- Makes the site owner's account unless there is one. -/
def ensureSiteOwner (s : Service) (now : Instant) (salt : Bytes) (name : String)
    (mail password : Option String) : Except Failure Account × Service :=
  let n := newLocal name mail (password.map (hashOf salt)) false
  let (result, store) := s.store.ensureSiteOwner n now
  (result.mapError .store, { s with store })

/-- Makes an account with a local password. -/
def createLocalAccount (s : Service) (now : Instant) (salt : Bytes) (name : String)
    (mail : Option String) (password : String) (excluded : Bool) :
    Except Failure Account × Service :=
  let (result, store) :=
    s.store.createAccount (newLocal name mail (some (hashOf salt password)) excluded) now
  (result.mapError .store, { s with store })

/-- The site owner's account, if the name and the password are the owner's. -/
def verifySiteOwner (s : Service) (name password : String) : Except Failure Account :=
  match s.store.accountByName name with
  | .error e => .error (.store e)
  | .ok none => .error .invalidCredentials
  | .ok (some a) =>
    if a.isSiteOwner && a.acceptsPassword password then .ok a else .error .invalidCredentials

/-! ## Logins -/

/-- What a failed login is told. -/
def failureMessage (s : Service) (f : Failure) : String :=
  withHelpLink f.kind.userMessage s.live.helpLinkUrl s.live.helpLinkText

/-- Logs in under the settings in force. -/
def login (r : Realm) (s : Service) (now : Instant) (name password : String) : Attempt :=
  DirectoryLogin.login r s.live now name password s.store

/-- Logs in a visitor under the settings in force. -/
def ssoLogin (r : Realm) (s : Service) (now : Instant) (v : Visit) : Attempt :=
  DirectoryLogin.ssoLogin r s.live now v s.store

end Service

end DirectoryLogin
