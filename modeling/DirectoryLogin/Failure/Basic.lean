import DirectoryLogin.Account.Store
import DirectoryLogin.Directory.Behaviour
import DirectoryLogin.Failure.Kind
import DirectoryLogin.Settings.Authentication

/-!
# Failures

A failure is the cause for which an activity ends without a result. Its kind decides what a client
sees of it, and `Failure.detail` words the cause for the log.
-/

namespace DirectoryLogin

/-- A rule that turns a known identity away. -/
inductive Disallowance where
  | notInAllowList
  | inDenyList
  | predicateFalse
  | registeredFalse (name : String)
  | noAuthorizations
  | excludedAccount
  | blockedAccount
  deriving DecidableEq, Repr

def Disallowance.message : Disallowance → String
  | notInAllowList => "DN not in allow list"
  | inDenyList => "DN in deny list"
  | predicateFalse => "allow predicate returned false"
  | registeredFalse name => s!"predicate '{name}' returned false"
  | noAuthorizations => "no authorizations"
  | excludedAccount => "account is excluded from LDAP authentication"
  | blockedAccount => "account is blocked"

/-- Settings under which nobody can log in. -/
inductive Misconfiguration where
  | noCandidate
  | evaluatorDisabled
  | predicate (error : Predicate.PredicateError)
  | registered (name : String) (error : Predicate.PredicateError)
  | noProvider
  deriving DecidableEq, Repr

def Misconfiguration.message : Misconfiguration → String
  | noCandidate => "no enabled LDAP server is configured for authentication"
  | evaluatorDisabled => "predicate configured but evaluator disabled"
  | predicate error => s!"allow predicate: {error.display}"
  | registered name error => s!"predicate '{name}': {error.display}"
  | noProvider => "authorization required but no provider is enabled"

/-- An identity that cannot get an account. -/
inductive LinkConflict where
  /-- The account of that name is linked to another identity. -/
  | linkedElsewhere (name : String)
  /-- The account of that name may not be linked. -/
  | accountExists (name : String)
  /-- No account may be made. -/
  | creationDisabled (name : String)
  deriving DecidableEq, Repr

def LinkConflict.message : LinkConflict → String
  | linkedElsewhere name => s!"account '{name}' is linked to another directory identity"
  | accountExists name => s!"local account '{name}' already exists"
  | creationDisabled name => s!"no local account for '{name}' and account creation is disabled"

/-- The kind of a refusal by the store: a name in use concerns the account, all else the store. -/
def StoreError.kind : StoreError → FailureKind
  | nameTaken _ => .provisioningError
  | authnameTaken _ => .provisioningError
  | unknownAccount _ => .databaseError
  | unreadableTimestamp _ => .databaseError

def StoreError.message : StoreError → String
  | nameTaken name => s!"Account '{name}' already exists"
  | authnameTaken authname => s!"Authmap for '{authname}' already exists"
  | unknownAccount _ =>
    "error returned from database: (code: 787) FOREIGN KEY constraint failed"
  | unreadableTimestamp t =>
    s!"Invalid timestamp '{Time.stored t}': input contains invalid characters"

inductive Failure where
  | notFound
  | invalidCredentials
  /-- A server failed. -/
  | server (sid : String) (error : DirectoryError)
  /-- The lookup of authorizations failed. -/
  | lookup (message : String)
  | disallowed (reason : Disallowance)
  | misconfigured (reason : Misconfiguration)
  | unlinkable (conflict : LinkConflict)
  | ssoDisabled
  | settings (refusal : Settings.Refusal)
  | store (error : StoreError)
  deriving DecidableEq, Repr

namespace Failure

def kind : Failure → FailureKind
  | notFound => .notFound
  | invalidCredentials => .invalidCredentials
  | server .. => .serverError
  | lookup _ => .serverError
  | disallowed _ => .userDisallowed
  | misconfigured _ => .disabledForBadConfig
  | unlinkable _ => .provisioningError
  | ssoDisabled => .ssoDisabled
  | settings _ => .invalidArgument
  | store error => error.kind

/-- The wording of the cause, empty where the kind says it all. -/
def detail : Failure → String
  | notFound => ""
  | invalidCredentials => ""
  | server sid error => s!"{sid}: {error.message}"
  | lookup message => message
  | disallowed reason => reason.message
  | misconfigured reason => reason.message
  | unlinkable conflict => conflict.message
  | ssoDisabled => ""
  | settings refusal => refusal.message
  | store error => error.message

/-- The full wording. -/
def describe (f : Failure) : String := f.kind.describe f.detail

end Failure

end DirectoryLogin
