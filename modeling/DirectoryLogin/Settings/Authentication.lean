import DirectoryLogin.Predicate.Parser
import DirectoryLogin.Settings.Choices
import DirectoryLogin.Text.Search

/-!
# Authentication settings

The settings that a login reads: which servers are asked, whom the policy admits, how accounts are
made and kept up to date, and how single sign-on behaves. `check` refuses settings under which no
server could be asked or a text could not be used.
-/

namespace DirectoryLogin.Settings

/-- The server variable that names the visitor unless the settings say otherwise. -/
def defaultRemoteUserHeader : String := "REMOTE_USER"

/-- Single sign-on. -/
structure Sso where
  enabled : Bool
  /-- The server variable that carries the asserted user name. -/
  remoteUserHeader : String
  /-- Drop the domain and the realm from the asserted name. -/
  stripDomainName : Bool
  implementation : SsoModule
  seamlessLogin : SeamlessLogin
  /-- Paths on which single sign-on never runs by itself; a final `*` matches any ending. -/
  excludedPaths : List String
  /-- Hosts on which single sign-on never runs by itself. -/
  excludedHosts : List String
  /-- Tell visitors that single sign-on logged them in. -/
  notifyAuthentication : Bool
  deriving DecidableEq, Repr

/-- Single sign-on that is switched off, with every choice at its default. -/
def Sso.default : Sso where
  enabled := false
  remoteUserHeader := defaultRemoteUserHeader
  stripDomainName := false
  implementation := .sspi
  seamlessLogin := .off
  excludedPaths := []
  excludedHosts := []
  notifyAuthentication := false

structure Authentication where
  mode : AuthenticationMode
  /-- The ids of the servers to ask, in order. -/
  sids : List String
  /-- Unless empty, admit only entries whose name contains one of these fragments. -/
  allowOnlyIfTextInDn : List String
  /-- Refuse entries whose name contains one of these fragments. -/
  excludeIfTextInDn : List String
  /-- Refuse identities that hold no authorization. -/
  excludeIfNoAuthorizations : Bool
  /-- A predicate that entries must satisfy. -/
  allowPredicate : Option String
  predicateEvaluatorEnabled : Bool
  mailUpdate : MailUpdate
  /-- The mail address of an entry that has none, with a placeholder for the account name. -/
  mailTemplate : Option String
  accountCreation : AccountCreation
  existingAccount : ExistingAccount
  helpLinkUrl : Option String
  helpLinkText : Option String
  sso : Sso
  deriving DecidableEq, Repr

/-- No server, no rule, and every choice at its default. -/
def Authentication.default : Authentication where
  mode := .mixed
  sids := []
  allowOnlyIfTextInDn := []
  excludeIfTextInDn := []
  excludeIfNoAuthorizations := false
  allowPredicate := none
  predicateEvaluatorEnabled := true
  mailUpdate := .onEveryLogin
  mailTemplate := none
  accountCreation := .createOnLogin
  existingAccount := .reject
  helpLinkUrl := none
  helpLinkText := none
  sso := .default

/-- The placeholder for the account name in a mail template. -/
def usernamePlaceholder : String := "\x7busername\x7d"

/-! ## Checks -/

/-- Why settings are refused. -/
inductive Refusal where
  | noServer
  | unknownServer (sid : String)
  | templateWithoutPlaceholder
  | headerMissing
  | predicate (error : Predicate.PredicateError)
  deriving DecidableEq, Repr

/-- The wording of a refusal. -/
def Refusal.message : Refusal → String
  | noServer => "At least one LDAP server must be enabled for authentication"
  | unknownServer sid => s!"Unknown LDAP server '{sid}'"
  | templateWithoutPlaceholder => s!"Mail template must contain {usernamePlaceholder} placeholder"
  | headerMissing => "SSO requires a remote user header name"
  | predicate error => s!"allow predicate: {error.display}"

namespace Authentication

/-- The predicate to evaluate, blank text counting as none. -/
def predicateSource (c : Authentication) : Option String := c.allowPredicate.bind Text.nonBlank?

/-- A mail template is empty or holds the placeholder. -/
def templateUsable (c : Authentication) : Bool :=
  match c.mailTemplate with
  | some template => template.isEmpty || Text.contains template usernamePlaceholder
  | none => true

/-- Checks the settings against the ids of the known servers. -/
def validate (c : Authentication) (known : List String) : Except Refusal Unit :=
  if c.sids.isEmpty then .error .noServer
  else match c.sids.find? (!known.contains ·) with
    | some sid => .error (.unknownServer sid)
    | none =>
      if !c.templateUsable then .error .templateWithoutPlaceholder
      else if c.sso.enabled && Text.isBlankText c.sso.remoteUserHeader then .error .headerMissing
      else .ok ()

/-- Checks the settings and that their predicate can be parsed. -/
def check (c : Authentication) (known : List String) : Except Refusal Unit := do
  c.validate known
  match c.predicateSource with
  | none => .ok ()
  | some source =>
    match Predicate.parse source with
    | .ok _ => .ok ()
    | .error e => .error (.predicate e)

end Authentication

end DirectoryLogin.Settings
