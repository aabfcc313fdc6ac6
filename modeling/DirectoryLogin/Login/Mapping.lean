import DirectoryLogin.Account.Script
import DirectoryLogin.Failure.Basic
import DirectoryLogin.Login.Identity

/-!
# From an identity to an account

An admitted identity gets the account linked to its authname. If there is none, the account of its
name is linked to it where the settings allow that, or a new account is made. The activity is a
script of calls on the store, each of which happens as a whole.
-/

namespace DirectoryLogin

open Store (Script)
open Time (Instant)

/-- An account and whether it was made for this login. -/
structure Mapped where
  account : Account
  provisioned : Bool
  deriving DecidableEq, Repr

namespace Mapping

open Settings (Authentication)

/-- Makes a call on the store. -/
def ask (c : Store.Call) : Script Failure c.Reply := Script.ask .store c

/-- What a mapping depends on, the identity aside. -/
structure Terms where
  settings : Authentication
  /-- The account's roles become the granted ones. -/
  syncRoles : Bool
  grants : List String
  now : Instant
  deriving DecidableEq, Repr

/-- The mail address for an account: the directory's, else the template filled in. -/
def mailFor (c : Authentication) (i : Identity) : Option String :=
  i.mail <|> (c.mailTemplate.filter (!·.isEmpty)).map fun template =>
    Text.replaceAll template Settings.usernamePlaceholder i.accountName

/-- Records the time of a login. -/
def touch (a : Account) (now : Instant) : Script Failure Account := do
  ask (.touchLogin a.uid now)
  return { a with lastLogin := some now }

/-- Copies the mail address to the account, where the settings say so and it differs. -/
def refreshMail (t : Terms) (mail : Option String) (a : Account) : Script Failure Account :=
  match t.settings.mailUpdate, mail with
  | .onEveryLogin, some m =>
    if a.mail = some m then return a
    else do
      ask (.updateMail a.uid (some m))
      return { a with mail := some m }
  | _, _ => return a

/-- Copies the granted roles to the account, where they differ. -/
def refreshRoles (t : Terms) (a : Account) : Script Failure Account :=
  if t.syncRoles && a.roles != t.grants then do
    ask (.updateRoles a.uid t.grants)
    return { a with roles := t.grants }
  else return a

/-- Brings a linked account up to date. A blocked one is turned away. -/
def refresh (t : Terms) (mail : Option String) (a : Account) : Script Failure Account :=
  if a.status = .blocked then Script.fail (.disallowed .blockedAccount)
  else do
    let a ← refreshMail t mail a
    let a ← refreshRoles t a
    touch a t.now

/-- Links the account of the identity's name, where that is allowed. -/
def associate (t : Terms) (authname : String) (mail : Option String) (existing : Account) :
    Script Failure Account :=
  if existing.bypassesDirectory then Script.fail (.disallowed .excludedAccount)
  else do
    match ← ask (.authmap existing.uid directoryModule) with
    | some _ => Script.fail (.unlinkable (.linkedElsewhere existing.name))
    | none =>
      if t.settings.existingAccount = .reject then
        Script.fail (.unlinkable (.accountExists existing.name))
      else do
        let _ ← ask (.createAuthmap existing.uid directoryModule authname)
        refresh t mail existing

/-- Makes an account and links it. -/
def provision (t : Terms) (authname : String) (mail : Option String) (name : String) :
    Script Failure Account := do
  let fresh : NewAccount := ⟨name, mail, none, false, t.grants⟩
  let a ← ask (.provisionAccount fresh directoryModule authname t.now)
  touch a t.now

/-- Finds or makes the account of an identity. -/
def map (t : Terms) (i : Identity) : Script Failure Mapped := do
  let mail := mailFor t.settings i
  match ← ask (.accountByAuthname directoryModule i.authname) with
  | some linked => return ⟨← refresh t mail linked, false⟩
  | none =>
    match ← ask (.accountByName i.accountName) with
    | some existing => return ⟨← associate t i.authname mail existing, false⟩
    | none =>
      if t.settings.accountCreation = .existingOnly then
        Script.fail (.unlinkable (.creationDisabled i.accountName))
      else return ⟨← provision t i.authname mail i.accountName, true⟩

end Mapping

end DirectoryLogin
