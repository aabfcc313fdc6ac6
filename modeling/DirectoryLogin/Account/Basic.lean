import DirectoryLogin.Json.Basic
import DirectoryLogin.Time.Text

/-!
# Local accounts

An account is what the site knows about a person. The account with uid 1 belongs to the site
owner. A link (`Authmap`) ties an account to an outside identity of a module.
-/

namespace DirectoryLogin

open Time (Instant)

/-- The uid of the site owner. -/
def siteOwnerUid : Int := 1

/-- The module under which directory identities are linked. -/
def directoryModule : String := "ldap_authentication"

inductive Account.Status where
  | active
  | blocked
  deriving DecidableEq, Repr

namespace Account.Status

def names : List (String × Account.Status) := [("active", active), ("blocked", blocked)]

def name : Account.Status → String
  | active => "active"
  | blocked => "blocked"

end Account.Status

structure Account where
  uid : Int
  name : String
  mail : Option String
  /-- The hash of the local password; accounts without one log in through the directory only. -/
  passHash : Option String
  status : Account.Status
  /-- The account never goes through the directory. -/
  ldapExcluded : Bool
  roles : List String
  createdAt : Instant
  lastLogin : Option Instant
  deriving DecidableEq, Repr

namespace Account

def isSiteOwner (a : Account) : Bool := a.uid == siteOwnerUid

def isActive (a : Account) : Bool := a.status == .active

/-- Only the local password counts for the account. -/
def bypassesDirectory (a : Account) : Bool := a.isSiteOwner || a.ldapExcluded

theorem bypasses_of_siteOwner {a : Account} (h : a.uid = siteOwnerUid) :
    a.bypassesDirectory = true := by
  simp [bypassesDirectory, isSiteOwner, h]

/-- What others get to see of an account, which leaves out the password hash. -/
def toJson (a : Account) : Json := .object [
  ("uid", .integer a.uid),
  ("name", .string a.name),
  ("mail", .ofOption a.mail),
  ("status", .string a.status.name),
  ("ldap_excluded", .bool a.ldapExcluded),
  ("roles", .strings a.roles),
  ("created_at", .string (Time.exact a.createdAt)),
  ("last_login", .ofOption (a.lastLogin.map Time.exact))]

end Account

/-- What is given when an account is made. -/
structure NewAccount where
  name : String
  mail : Option String
  passHash : Option String
  ldapExcluded : Bool
  roles : List String
  deriving DecidableEq, Repr

/-- The link of an account to an outside identity. -/
structure Authmap where
  aid : Int
  uid : Int
  module : String
  authname : String
  deriving DecidableEq, Repr

end DirectoryLogin
