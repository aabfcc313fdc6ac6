/-!
# The choices among the settings

Each enumeration lists its members under the names by which settings spell them.
-/

namespace DirectoryLogin.Settings

/-- Which passwords count. -/
inductive AuthenticationMode where
  /-- Directory passwords, and local ones for accounts that are not linked to the directory. -/
  | mixed
  /-- Directory passwords only, except for the site owner and excluded accounts. -/
  | exclusive
  deriving DecidableEq, Repr

/-- When a login copies the directory's mail address to the account. -/
inductive MailUpdate where
  | onEveryLogin
  | never
  deriving DecidableEq, Repr

/-- Whether a login may create an account. -/
inductive AccountCreation where
  | createOnLogin
  | existingOnly
  deriving DecidableEq, Repr

/-- What happens to an account that bears the name of a directory identity and is not linked. -/
inductive ExistingAccount where
  | associate
  | reject
  deriving DecidableEq, Repr

/-- The front end that asserts who is visiting. -/
inductive SsoModule where
  /-- Sets the configured variable. -/
  | sspi
  /-- May set the configured variable with `REDIRECT_` before its name. -/
  | kerberos
  deriving DecidableEq, Repr

/-- When single sign-on runs without being asked for. -/
inductive SeamlessLogin where
  | off
  | loginPathOnly
  | everyPage
  deriving DecidableEq, Repr

namespace AuthenticationMode

def names : List (String × AuthenticationMode) := [("mixed", mixed), ("exclusive", exclusive)]

def name : AuthenticationMode → String
  | mixed => "mixed"
  | exclusive => "exclusive"

end AuthenticationMode

namespace MailUpdate

def names : List (String × MailUpdate) := [("on_every_login", onEveryLogin), ("never", never)]

def name : MailUpdate → String
  | onEveryLogin => "on_every_login"
  | never => "never"

end MailUpdate

namespace AccountCreation

def names : List (String × AccountCreation) :=
  [("create_on_login", createOnLogin), ("existing_only", existingOnly)]

def name : AccountCreation → String
  | createOnLogin => "create_on_login"
  | existingOnly => "existing_only"

end AccountCreation

namespace ExistingAccount

def names : List (String × ExistingAccount) := [("associate", associate), ("reject", reject)]

def name : ExistingAccount → String
  | associate => "associate"
  | reject => "reject"

end ExistingAccount

namespace SsoModule

def names : List (String × SsoModule) := [("mod_auth_sspi", sspi), ("mod_auth_kerb", kerberos)]

def name : SsoModule → String
  | sspi => "mod_auth_sspi"
  | kerberos => "mod_auth_kerb"

end SsoModule

namespace SeamlessLogin

def names : List (String × SeamlessLogin) :=
  [("off", off), ("login_path_only", loginPathOnly), ("every_page", everyPage)]

def name : SeamlessLogin → String
  | off => "off"
  | loginPathOnly => "login_path_only"
  | everyPage => "every_page"

end SeamlessLogin

end DirectoryLogin.Settings
