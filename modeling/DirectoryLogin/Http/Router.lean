import DirectoryLogin.Http.Admin
import DirectoryLogin.Http.Login

/-!
# Answering requests

A request passes three layers. It is counted; a visitor without a session is logged in by single
sign-on where the settings want that; and the page of its path answers it. The pages of the
administration ask for the site owner's credentials first, whatever the method.

* `Route.ofPath?` finds the page of a path;
* `serve` answers for a page;
* `seamless` is the layer of single sign-on: an attempt that fails leaves the visitor as before;
* `handle` is the whole.

What is asked of the surroundings of the store (`Account/Script.lean`) is asked of those of `handle`
too, and one thing more: a request that has been begun is answered. Neither a limit on its time nor
a visitor who goes away cuts it off between two of its steps, so `handle` takes it as one step.
-/

namespace DirectoryLogin.Http

/-- A page. -/
inductive Route where
  | metrics
  | login
  | sso
  | logout
  | session
  | health
  | settings
  | servers
  /-- The test of a server. The id is percent-encoded. An empty one leads to the page as well, which
  then knows no such server. -/
  | serverTest (encodedSid : String)
  | accounts
  deriving DecidableEq, Repr

namespace Route

/-- The page of the parts between the slashes of a path. -/
def ofParts? : List String → Option Route
  | ["", "metrics"] => some metrics
  | ["", "user", "login"] => some login
  | ["", "user", "login", "sso"] => some sso
  | ["", "user", "logout"] => some logout
  | ["", "user", "session"] => some session
  | ["", "api", "v1", "health"] => some health
  | ["", "api", "v1", "authentication", "config"] => some settings
  | ["", "api", "v1", "servers"] => some servers
  | ["", "api", "v1", "servers", sid, "test"] => some (serverTest sid)
  | ["", "api", "v1", "accounts"] => some accounts
  | _ => none

/-- The page of a path. -/
def ofPath? (path : String) : Option Route := ofParts? (Text.splitOn '/' path)

/-- The page is for the site owner. -/
def isProtected : Route → Bool
  | settings | servers | serverTest _ | accounts => true
  | _ => false

end Route

namespace Portal

/-! ## Pages -/

/-- The site owner's account, if the request comes with its credentials. -/
def ownerOf (s : State) (r : Request) : Option Account :=
  match r.basicCredentials with
  | some (name, password) => (s.service.verifySiteOwner name password).toOption
  | none => none

/-- Shows the metrics. -/
def showMetrics (p : Portal) (s : State) : Exchange :=
  let lines := if p.showsMetrics then s.metrics.lines.map (· ++ "\n") else []
  .reply (.text 200 "text/plain; version=0.0.4; charset=utf-8" (String.join lines)) s

/-- The answer to a method that a page does not have. -/
def wrongMethod (s : State) : Exchange := .reply (.ofStatus 405) s

/-- The page answers, where it has the method of the request. -/
def answer (p : Portal) (m : Moment) (r : Request) (started : Option Session) (s : State) :
    Route → Exchange
  | .metrics => if r.isRead then p.showMetrics s else wrongMethod s
  | .login => if r.method == "POST" then p.passwordLogin m r s else wrongMethod s
  | .sso => if r.isRead then p.assertedLogin m r s else wrongMethod s
  | .logout => if r.method == "POST" then logout m r s else wrongMethod s
  | .session => if r.isRead then currentSession m r started s else wrongMethod s
  | .health => if r.isRead then p.health m s else wrongMethod s
  | .settings =>
    if r.isRead then showSettings s
    else if r.method == "PUT" then p.changeSettings r s
    else wrongMethod s
  | .servers => if r.isRead then p.showServers s else wrongMethod s
  | .serverTest encodedSid =>
    if r.method == "POST" then
      match Text.percentDecode? encodedSid with
      | none => .reply (.plain 400 "The server id is not UTF-8") s
      | some sid => p.testServer sid r s
    else wrongMethod s
  | .accounts => if r.isRead then showAccounts s else wrongMethod s

/-- Answers for the page of the path. -/
def serve (p : Portal) (m : Moment) (r : Request) (started : Option Session) (s : State) : Exchange :=
  match Route.ofPath? r.path with
  | none => .reply (.ofStatus 404) s
  | some route =>
    if route.isProtected && (ownerOf s r).isNone then .reply .unauthorized s
    else p.answer m r started s route

/-! ## Single sign-on without being asked -/

/-- The request asks for a login by itself. -/
def asksForLogin (r : Request) : Bool := r.path == ssoPath || (r.path == loginPath && r.method == "POST")

/-- Logs the visitor in and goes on; the session's cookie comes last. -/
def attemptThen (p : Portal) (m : Moment) (r : Request) (s : State)
    (next : Option Session → State → Exchange) : Exchange :=
  let a := s.service.ssoLogin p.realm m.now r.visit
  let s := s.record .seamlessSso a
  match a.result with
  | .error _ => (next none s).after a.questions
  | .ok o =>
    let (session, s) := s.startSession m o
    ((next (some session) s).mapResponse (·.addCookie (p.cookieOf s session))).after a.questions

/-- Logs a visitor without a session in, where the settings want that, and goes on. -/
def seamless (p : Portal) (m : Moment) (r : Request) (s : State)
    (next : Option Session → State → Exchange) : Exchange :=
  let (live, s) := s.sessionOf m r
  if live.isSome || asksForLogin r then next none s
  else if SingleSignOn.runsByItself r.visit s.service.live.sso then p.attemptThen m r s next
  else next none s

/-! ## The whole -/

/-- Leaves the body out of the response to a request for the headers. -/
def fitMethod (r : Request) (response : Response) : Response :=
  if r.method == "HEAD" then response.headersOnly else response

/-- Counts a request that has been answered. -/
def countRequest (r : Request) (e : Exchange) : Exchange :=
  { e with state := { e.state with metrics := e.state.metrics.request r.method e.response.status } }

/-- Answers a request. -/
def handle (p : Portal) (m : Moment) (r : Request) (s : State) : Exchange :=
  countRequest r ((p.seamless m r s (p.serve m r)).mapResponse (fitMethod r))

end Portal

end DirectoryLogin.Http
