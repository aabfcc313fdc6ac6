import DirectoryLogin.Directory.Entry
import DirectoryLogin.Directory.Server

/-!
# What a directory server answers

A `Directory` is a server definition with the answers that the server gives: the entry found under
a user name, whether a password belongs to an entry, and what the server says about itself. Any
answers are allowed, so a directory can be a tree in memory, a server that is down, or one that
contradicts itself.
-/

namespace DirectoryLogin

/-- Why a directory gives no answer. -/
inductive DirectoryError where
  | unavailable (message : String)
  | invalidCredentials
  | ambiguous (count : Nat)
  | misconfigured (message : String)
  deriving DecidableEq, Repr

/-- The wording of an error. -/
def DirectoryError.message : DirectoryError → String
  | unavailable message => message
  | invalidCredentials => "invalid credentials"
  | ambiguous count => s!"username matched {count} entries"
  | misconfigured message => message

/-- What a server says about itself. -/
structure ServerInfo where
  vendor : Option String
  version : Option String
  namingContexts : List String
  supportedVersions : List String
  deriving DecidableEq, Repr

def ServerInfo.toJson (i : ServerInfo) : Json := .object [
  ("vendor", .ofOption i.vendor),
  ("version", .ofOption i.version),
  ("naming_contexts", .strings i.namingContexts),
  ("supported_ldap_version", .strings i.supportedVersions)]

structure Directory where
  definition : ServerDefinition
  /-- The entry of a user name. A password is at hand in a password login only. -/
  findEntry : (username : String) → (password : Option String) → Except DirectoryError (Option Entry)
  /-- The password belongs to the entry. -/
  verifyPassword : Entry → (password : String) → Except DirectoryError Bool
  testConnection : Except DirectoryError ServerInfo

namespace Directory

def sid (d : Directory) : String := d.definition.sid

end Directory

/-- A question put to a directory in the course of a login. -/
inductive Directory.Question where
  | findEntry (sid username : String) (password : Option String)
  | verifyPassword (sid dn : String)
  deriving DecidableEq, Repr

namespace Directory.Question

/-- The server that was asked. -/
def sid : Directory.Question → String
  | findEntry sid _ _ => sid
  | verifyPassword sid _ => sid

/-- The question was for an entry. -/
def isLookup : Directory.Question → Bool
  | findEntry .. => true
  | verifyPassword .. => false

end Directory.Question

end DirectoryLogin
