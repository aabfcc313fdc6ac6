import DirectoryLogin.Http.Cookie
import DirectoryLogin.Http.Metrics
import DirectoryLogin.Http.Response
import DirectoryLogin.Login.Service
import DirectoryLogin.Session.Table
import DirectoryLogin.Settings.Site

/-!
# The portal

The portal is the site as it answers requests. What stays fixed while it runs is its settings and
its directories; what changes is the login service, the sessions and the metrics.

An `Exchange` is all that a request leaves behind: the response, the state, and the questions that
were put to the directories. Time and randomness come from outside, in a `Moment` for each
request.

`Portal.start` makes sure that the site owner has an account and takes saved settings over.
-/

namespace DirectoryLogin.Http

open Directory (Question)
open Digest (Bytes)
open Time (Instant)

structure Portal where
  site : Settings.Site
  realm : Realm
  startedAt : Instant
  /-- The metrics page shows the metrics; otherwise it is empty. -/
  showsMetrics : Bool

/-- What changes while the portal runs. -/
structure Portal.State where
  service : Service
  sessions : SessionTable
  metrics : Metrics
  deriving DecidableEq, Repr

/-- What a request gets from outside. -/
structure Moment where
  now : Instant
  /-- A session id that was never used before. -/
  freshId : String
  deriving DecidableEq, Repr

/-- All that a request leaves behind. -/
structure Exchange where
  response : Response
  state : Portal.State
  /-- What the directories were asked, in order. -/
  questions : List Question

namespace Exchange

/-- A response that changes nothing. -/
def reply (response : Response) (s : Portal.State) : Exchange := ⟨response, s, []⟩

/-- Changes the response. -/
def mapResponse (e : Exchange) (f : Response → Response) : Exchange :=
  { e with response := f e.response }

/-- Puts questions asked before in front. -/
def after (e : Exchange) (questions : List Question) : Exchange :=
  { e with questions := questions ++ e.questions }

end Exchange

namespace Portal

/-- The realm of a site: the roles come from its group mappings, and it has no further rules. -/
def realmOf (site : Settings.Site) (registry : Registry) : Realm :=
  ⟨registry, .ofSettings site.authorization, []⟩

/-- The state of a portal that starts: the owner has an account, and saved settings are in force. -/
def start (site : Settings.Site) (registry : Registry) (store : Store) (now : Instant) (salt : Bytes) :
    Except Failure State :=
  let service : Service := ⟨store, site.authentication⟩
  let owner := site.owner
  match service.ensureSiteOwner now salt owner.name owner.mail owner.password with
  | (.error f, _) => .error f
  | (.ok _, service) =>
    let (_, service) := service.load (realmOf site registry)
    .ok ⟨service, .empty site.sessions.secret site.sessions.ttlSeconds, .empty⟩

/-! ## Logging in -/

/-- Counts a login attempt and the account that it made. -/
def State.countLogin (s : State) (kind : LoginKind) (result : Except Failure Outcome) : State :=
  match result with
  | .error f => { s with metrics := s.metrics.login kind f.kind.code }
  | .ok o =>
    let metrics := s.metrics.login kind Metrics.successWord
    { s with metrics := if o.provisioned then metrics.bump .provisioned else metrics }

/-- Takes over what a login attempt leaves behind, and counts it. -/
def State.record (s : State) (kind : LoginKind) (a : Attempt) : State :=
  { s with service := { s.service with store := a.store } }.countLogin kind a.result

/-- Shows the number of active sessions. -/
def State.countSessions (s : State) (now : Instant) : State :=
  { s with metrics := s.metrics.set .activeSessions (s.sessions.active now) }

/-- Starts a session for a person logged in. -/
def State.startSession (s : State) (m : Moment) (o : Outcome) : Session × State :=
  let (session, sessions) := s.sessions.create m.now m.freshId o.account.uid o.account.name o.method
  (session, { s with sessions }.countSessions m.now)

/-- The text that hands a session over. -/
def cookieOf (p : Portal) (s : State) (session : Session) : String :=
  Cookie.set (s.sessions.cookieValue session.id) p.site.sessions.cookieSecure

end Portal

end DirectoryLogin.Http
