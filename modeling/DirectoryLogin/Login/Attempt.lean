import DirectoryLogin.Account.Password
import DirectoryLogin.Login.Mapping
import DirectoryLogin.Login.Policy
import DirectoryLogin.Login.Resolution
import DirectoryLogin.Login.SingleSignOn

/-!
# Logins

A password login first looks at the account that has the submitted name. Its local password alone
decides where the account never goes through the directory, and is tried first where the mode is
mixed and the account is not linked. In all other cases, and after a wrong local password of the
second kind, the directory decides. A single sign-on takes the name that the front end asserts to
the directory.

An identity found in the directory passes the policy gate before it gets its account.

* `login` and `ssoLogin` are the two ways in;
* `approve` is what they share;
* an `Attempt` is all that a login leaves behind: its result, the store, and the questions that
  were put to the directories.
-/

namespace DirectoryLogin

open Directory (Question)
open Settings (Authentication)
open Time (Instant)

/-- How a person was recognized. -/
inductive LoginMethod where
  /-- By the password kept at the site. -/
  | localPassword
  /-- By the password in the directory. -/
  | directory (sid : String)
  /-- By the front end. -/
  | singleSignOn (sid : String)
  deriving DecidableEq, Repr

def LoginMethod.toJson : LoginMethod → Json
  | localPassword => .object [("type", .string "local")]
  | directory sid => .object [("type", .string "ldap"), ("sid", .string sid)]
  | singleSignOn sid => .object [("type", .string "sso"), ("sid", .string sid)]

/-- The person logged in. -/
structure Outcome where
  account : Account
  method : LoginMethod
  /-- The account was made by this login. -/
  provisioned : Bool
  /-- Notices for the person. -/
  messages : List String
  deriving DecidableEq, Repr

/-- All that a login leaves behind. -/
structure Attempt where
  result : Except Failure Outcome
  store : Store
  /-- What the directories were asked, in order. -/
  questions : List Question

/-- The surroundings of logins, which no login changes. -/
structure Realm where
  registry : Registry
  provider : Provider
  rules : List Rule

/-- The password is the one kept for the account. A hash that cannot be read matches none. -/
def Account.acceptsPassword (a : Account) (password : String) : Bool :=
  match a.passHash with
  | some hash => passwordAccepted hash password
  | none => false

namespace Login

/-- An attempt that fails before anything is asked or changed. -/
def refuse (f : Failure) (s : Store) : Attempt := ⟨.error f, s, []⟩

/-! ## The local password -/

/-- What the local password of an account is good for. -/
inductive LocalUse where
  /-- It decides. -/
  | decides
  /-- It is tried before the directory. -/
  | triedFirst
  /-- It does not count. -/
  | ignored
  deriving DecidableEq, Repr

/-- The use of an account's local password. -/
def localUse (c : Authentication) (s : Store) (a : Account) : LocalUse :=
  if a.bypassesDirectory then .decides
  else if c.mode == .mixed && a.passHash.isSome && (s.authmap a.uid directoryModule).isNone then
    .triedFirst
  else .ignored

/-- Logs in with the local password of an account. -/
def withLocalPassword (now : Instant) (a : Account) (password : String) (s : Store) : Attempt :=
  if !a.acceptsPassword password then refuse .invalidCredentials s
  else if !a.isActive then refuse (.disallowed .blockedAccount) s
  else
    ⟨.ok ⟨{ a with lastLogin := some now }, .localPassword, false, []⟩, s.touchLogin a.uid now, []⟩

/-! ## The directory -/

/-- The terms on which an admitted identity gets its account. The roles are copied where the
provider granted any list of roles, be it empty. -/
def terms (c : Authentication) (now : Instant) (grants : Option (List String)) : Mapping.Terms :=
  ⟨c, grants.isSome, grants.getD [], now⟩

/-- Passes an identity through the gate and gives it its account. -/
def approve (r : Realm) (c : Authentication) (now : Instant) (i : Identity) (method : LoginMethod)
    (s : Store) : Except Failure Outcome × Store :=
  match Policy.evaluate c r.provider r.rules i with
  | .error f => (.error f, s)
  | .ok grants =>
    match (Mapping.map (terms c now grants) i).run s with
    | (.error f, s) => (.error f, s)
    | (.ok mapped, s) => (.ok ⟨mapped.account, method, mapped.provisioned, []⟩, s)

/-- Admits the identity that a resolution found. -/
def approveResolved (r : Realm) (c : Authentication) (now : Instant) (found : Resolution)
    (method : String → LoginMethod) (s : Store) : Attempt :=
  match found.result with
  | .error f => ⟨.error f, s, found.questions⟩
  | .ok i =>
    let (result, s) := approve r c now i (method i.sid) s
    ⟨result, s, found.questions⟩

/-- Logs in with the password in the directory. -/
def withDirectoryPassword (r : Realm) (c : Authentication) (now : Instant) (name password : String)
    (s : Store) : Attempt :=
  approveResolved r c now (Resolution.ofCredentials r.registry c name password) .directory s

end Login

/-- Logs in with a name and a password. -/
def login (r : Realm) (c : Authentication) (now : Instant) (name password : String) (s : Store) :
    Attempt :=
  let name := Text.trim name
  if name.isEmpty || password.isEmpty then Login.refuse .invalidCredentials s
  else match s.accountByName name with
    | .error e => Login.refuse (.store e) s
    | .ok none => Login.withDirectoryPassword r c now name password s
    | .ok (some a) =>
      match Login.localUse c s a with
      | .decides => Login.withLocalPassword now a password s
      | .triedFirst =>
        if a.acceptsPassword password then Login.withLocalPassword now a password s
        else Login.withDirectoryPassword r c now name password s
      | .ignored => Login.withDirectoryPassword r c now name password s

/-- The outcome with the notice that single sign-on worked. -/
def Outcome.withNotice (o : Outcome) : Outcome := { o with messages := o.messages ++ [ssoNotice] }

/-- Logs in the visitor whom the front end asserts. -/
def ssoLogin (r : Realm) (c : Authentication) (now : Instant) (v : Visit) (s : Store) : Attempt :=
  if !c.sso.enabled then Login.refuse .ssoDisabled s
  else match SingleSignOn.assertedUsername v c.sso with
    | none => Login.refuse .notFound s
    | some username =>
      let found := Resolution.ofAsserted r.registry c username
      let attempt := Login.approveResolved r c now found .singleSignOn s
      if c.sso.notifyAuthentication then
        { attempt with result := attempt.result.map Outcome.withNotice }
      else attempt

end DirectoryLogin
