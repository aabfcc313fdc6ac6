import DirectoryLogin.Http.Portal

/-!
# Logging in, logging out and the session

The pages for visitors. A password login takes a JSON body or a form, and a single sign-on takes
the name that the front end asserts. Logging out ends the session of the cookie.
-/

namespace DirectoryLogin.Http.Portal

open Json (Reads Record)

/-! ## The body of a login -/

/-- A submitted name and password. -/
structure Credentials where
  name : String
  password : String
  deriving DecidableEq, Repr

def Credentials.record : Record Credentials :=
  Credentials.mk <$> .fieldNamed "name" ["username"] .string none none
    <*> .fieldNamed "password" ["pass"] .string none none

/-- The credentials in a form, where the names must not be repeated. -/
def Credentials.ofForm? (fields : List (String × String)) : Option Credentials :=
  match Credentials.record.reads .json (.object (fields.map fun (k, v) => (k, .string v))) with
  | .ok c => some c
  | .error _ => none

/-- The body is JSON. -/
def saysJson (r : Request) : Bool := Text.startsWith ((r.header? "content-type").getD "") "application/json"

/-- The credentials in a body, or what is said of one that has none. -/
def credentialsOf (r : Request) : Except String Credentials :=
  if saysJson r then
    match Credentials.record.reads.ofText r.body with
    | .ok c => .ok c
    | .error _ => .error "Invalid login request: name and password expected"
  else
    match Credentials.ofForm? (Text.formFields r.body) with
    | some c => .ok c
    | none => .error "Invalid login form: name and password expected"

/-! ## Logging in -/

/-- What a person logged in is told. -/
def successBody (o : Outcome) (session : Session) : Json := .object [
  ("success", .bool true),
  ("account", o.account.toJson),
  ("method", o.method.toJson),
  ("provisioned", .bool o.provisioned),
  ("messages", .strings o.messages),
  ("expires_at", .string (Time.exact session.expiresAt))]

/-- The response to a failed login. -/
def failureResponse (s : State) (f : Failure) : Response :=
  .loginError f.kind.httpStatus (s.service.failureMessage f) f.kind.code

/-- Answers a login attempt, with a session if it succeeded. -/
def finishLogin (p : Portal) (m : Moment) (kind : LoginKind) (a : Attempt) (s : State) : Exchange :=
  let s := s.record kind a
  match a.result with
  | .error f => ⟨failureResponse s f, s, a.questions⟩
  | .ok o =>
    let (session, s) := s.startSession m o
    ⟨(Response.json 200 (successBody o session)).addCookie (p.cookieOf s session), s, a.questions⟩

/-- Logs in with a name and a password. -/
def passwordLogin (p : Portal) (m : Moment) (r : Request) (s : State) : Exchange :=
  if r.isTooLong then .reply .tooLong s
  else match credentialsOf r with
  | .error message => .reply (.loginError 400 message FailureKind.invalidArgument.code) s
  | .ok c => p.finishLogin m .password (s.service.login p.realm m.now c.name c.password) s

/-- Logs in the visitor whom the front end asserts. -/
def assertedLogin (p : Portal) (m : Moment) (r : Request) (s : State) : Exchange :=
  p.finishLogin m .sso (s.service.ssoLogin p.realm m.now r.visit) s

/-! ## The session -/

/-- Ends the session of the cookie. -/
def logout (m : Moment) (r : Request) (s : State) : Exchange :=
  match Cookie.session? r with
  | none => .reply (.ofStatus 204) (s.countSessions m.now)
  | some value =>
    let (_, sessions) := s.sessions.remove value
    .reply ((Response.ofStatus 204).addCookie (Cookie.removal m.now))
      ({ s with sessions }.countSessions m.now)

/-- The session of a request's cookie, if it is live. -/
def State.sessionOf (s : State) (m : Moment) (r : Request) : Option Session × State :=
  match Cookie.session? r with
  | none => (none, s)
  | some value =>
    let (session, sessions) := s.sessions.get m.now value
    (session, { s with sessions })

/-- The response to a visitor without a session. -/
def notLoggedIn : Response := .error 401 "Not logged in"

/-- Shows a session and its account, as long as the account is active. -/
def sessionResponse (s : State) (session : Session) : Response :=
  match s.service.store.account session.uid with
  | .error e => .error 500 (Failure.store e).describe
  | .ok none => notLoggedIn
  | .ok (some a) =>
    if a.isActive then .success (.object [("session", session.toJson), ("account", a.toJson)])
    else notLoggedIn

/-- Shows the session that this request started, or else the session of its cookie. -/
def currentSession (m : Moment) (r : Request) (started : Option Session) (s : State) : Exchange :=
  match started with
  | some session => .reply (sessionResponse s session) s
  | none =>
    match s.sessionOf m r with
    | (none, s) => .reply notLoggedIn s
    | (some session, s) => .reply (sessionResponse s session) s

end DirectoryLogin.Http.Portal
