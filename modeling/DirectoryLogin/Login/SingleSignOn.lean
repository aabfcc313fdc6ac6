import DirectoryLogin.Login.Visit
import DirectoryLogin.Settings.Authentication

/-!
# Single sign-on

The front end asserts who is visiting in a server variable. `assertedUsername` finds the name, and
`runsByItself` says whether a visit is to be logged in without being asked.
-/

namespace DirectoryLogin

/-- The path of the login form. -/
def loginPath : String := "/user/login"

/-- The path that asks for single sign-on. -/
def ssoPath : String := "/user/login/sso"

namespace SingleSignOn

open Settings (Sso)

/-- The name after its last backslash and before the first `@` after that. -/
def stripDomain (name : String) : String :=
  let user := match Text.splitLast? '\\' name with
    | some (_, rest) => rest
    | none => name
  match Text.splitFirst? '@' user with
  | some (start, _) => start
  | none => user

/-- The value of the configured variable. Under Kerberos the same variable with `REDIRECT_` before
its name stands in for one that is missing or blank. -/
def assertedValue (v : Visit) (c : Sso) : Option String :=
  let header := Text.trim c.remoteUserHeader
  if header.isEmpty then none
  else match v.value? header, c.implementation with
    | some value, _ => some value
    | none, .kerberos => v.value? ("REDIRECT_" ++ header)
    | none, .sspi => none

/-- The asserted user name. -/
def assertedUsername (v : Visit) (c : Sso) : Option String :=
  (assertedValue v c).bind fun value =>
    Text.nonBlank? (if c.stripDomainName then stripDomain value else value)

/-- The host or the path is excluded. -/
def isExcluded (v : Visit) (c : Sso) : Bool :=
  c.excludedHosts.any (fun h => Text.sameAscii (Text.trim h) (Text.trim v.host)) ||
    c.excludedPaths.any (pathMatches · v.path)

/-- Single sign-on runs on the visit without being asked for. -/
def runsByItself (v : Visit) (c : Sso) : Bool :=
  c.enabled && !isExcluded v c &&
    match c.seamlessLogin with
    | .off => false
    | .loginPathOnly => Text.startsWith v.path loginPath
    | .everyPage => true

end SingleSignOn

end DirectoryLogin
