/-!
# Kinds of failure

Each kind has a code for clients, an HTTP status and a message for the login form. That an
identity is unknown and that its password is wrong are different kinds with the same status and
message, so the form does not give away which names exist.
-/

namespace DirectoryLogin

inductive FailureKind where
  | notFound
  | invalidCredentials
  | serverError
  | userDisallowed
  | disabledForBadConfig
  | provisioningError
  | ssoDisabled
  | invalidArgument
  | configError
  | databaseError
  | internalError
  | io
  | other
  deriving DecidableEq, Repr

namespace FailureKind

def names : List (String × FailureKind) :=
  [("NotFound", notFound), ("InvalidCredentials", invalidCredentials),
   ("ServerError", serverError), ("UserDisallowed", userDisallowed),
   ("DisabledForBadConfig", disabledForBadConfig), ("ProvisioningError", provisioningError),
   ("SsoDisabled", ssoDisabled), ("InvalidArgument", invalidArgument),
   ("ConfigError", configError), ("DatabaseError", databaseError),
   ("InternalError", internalError), ("Io", io), ("Other", other)]

def name : FailureKind → String
  | notFound => "NotFound"
  | invalidCredentials => "InvalidCredentials"
  | serverError => "ServerError"
  | userDisallowed => "UserDisallowed"
  | disabledForBadConfig => "DisabledForBadConfig"
  | provisioningError => "ProvisioningError"
  | ssoDisabled => "SsoDisabled"
  | invalidArgument => "InvalidArgument"
  | configError => "ConfigError"
  | databaseError => "DatabaseError"
  | internalError => "InternalError"
  | io => "Io"
  | other => "Other"

/-- The code that clients see. Faults of the program itself share one. -/
def code : FailureKind → String
  | databaseError => "InternalError"
  | io => "InternalError"
  | other => "InternalError"
  | k => k.name

/-- The status of a response that reports the failure. -/
def httpStatus : FailureKind → Nat
  | invalidArgument => 400
  | notFound => 401
  | invalidCredentials => 401
  | userDisallowed => 403
  | ssoDisabled => 403
  | provisioningError => 409
  | serverError => 503
  | disabledForBadConfig => 503
  | _ => 500

/-- The message at the login form. -/
def userMessage : FailureKind → String
  | notFound => "Sorry, unrecognized username or password."
  | invalidCredentials => "Sorry, unrecognized username or password."
  | userDisallowed => "User disallowed"
  | disabledForBadConfig =>
    "The site logon is currently not working due to a configuration error. Please see logs for additional details."
  | provisioningError =>
    "Your account could not be set up on this site. Please contact the site administrator."
  | ssoDisabled => "Single sign-on is not enabled on this site."
  | _ => "Login is temporarily unavailable. Please try again later."

/-- The failure ends a login and is no fault of the program. -/
def isLoginFailure : FailureKind → Bool
  | notFound => true
  | invalidCredentials => true
  | serverError => true
  | userDisallowed => true
  | disabledForBadConfig => true
  | provisioningError => true
  | ssoDisabled => true
  | _ => false

/-- The full wording, with a detail where the kind has one. -/
def describe (detail : String) : FailureKind → String
  | notFound => "No matching directory entry"
  | invalidCredentials => "Invalid credentials"
  | serverError => s!"Directory server error: {detail}"
  | userDisallowed => s!"User disallowed: {detail}"
  | disabledForBadConfig => s!"Disabled for bad configuration: {detail}"
  | provisioningError => s!"Provisioning failed: {detail}"
  | ssoDisabled => "Single sign-on is disabled"
  | invalidArgument => s!"Invalid argument: {detail}"
  | configError => s!"Configuration error: {detail}"
  | databaseError => s!"Database error: {detail}"
  | internalError => s!"Internal server error: {detail}"
  | io => detail
  | other => detail

end FailureKind

/-- A message with a link to help after it, where the link is set and not empty. -/
def withHelpLink (message : String) (url text : Option String) : String :=
  match url.filter (!·.isEmpty) with
  | some url =>
    let label := (text.filter (!·.isEmpty)).getD "Get help logging in"
    s!"{message} {label}: {url}"
  | none => message

/-- The notice after a single sign-on. -/
def ssoNotice : String := "You have been logged in via single sign-on."

end DirectoryLogin
