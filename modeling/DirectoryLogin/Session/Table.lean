import DirectoryLogin.Login.Attempt
import DirectoryLogin.Session.Token

/-!
# Login sessions

A session ties a session id to the account that logged in, until it expires or is removed. The id
travels signed, so a value that the site did not make reaches no session. The lifetime of sessions
has an upper bound of ten years.

The time and the random ids come from outside. `create` clears expired sessions away, and `get`
the one it meets.
-/

namespace DirectoryLogin

open Digest (Bytes)
open Time (Instant)

structure Session where
  id : String
  uid : Int
  name : String
  method : LoginMethod
  createdAt : Instant
  /-- The first instant at which the session is over. -/
  expiresAt : Instant
  deriving DecidableEq, Repr

namespace Session

def isExpired (s : Session) (now : Instant) : Bool := !now.before s.expiresAt

/-- What others get to see of a session, which leaves out the id. -/
def toJson (s : Session) : Json := .object [
  ("uid", .integer s.uid),
  ("name", .string s.name),
  ("method", s.method.toJson),
  ("created_at", .string (Time.exact s.createdAt)),
  ("expires_at", .string (Time.exact s.expiresAt))]

end Session

structure SessionTable where
  /-- The key under which ids are signed. -/
  secret : Bytes
  /-- How long sessions last, in seconds. -/
  lifetime : Nat
  /-- The sessions, each with another id. -/
  sessions : List Session
  deriving DecidableEq, Repr

namespace SessionTable

/-- Ten years, in seconds. -/
def maxLifetime : Nat := 10 * 365 * 24 * 3600

/-- A table without sessions. -/
def empty (secret : String) (ttlSeconds : Nat) : SessionTable :=
  ⟨Digest.utf8 secret, min ttlSeconds maxLifetime, []⟩

/-- The session with an id. -/
def find? (t : SessionTable) (id : String) : Option Session := t.sessions.find? (·.id == id)

/-- The table without the session of an id. -/
def erase (t : SessionTable) (id : String) : SessionTable :=
  { t with sessions := t.sessions.filter (·.id != id) }

/-- The table without expired sessions. -/
def clear (t : SessionTable) (now : Instant) : SessionTable :=
  { t with sessions := t.sessions.filter (!·.isExpired now) }

/-- Starts a session under a fresh id. -/
def create (t : SessionTable) (now : Instant) (id : String) (uid : Int) (name : String)
    (method : LoginMethod) : Session × SessionTable :=
  let session := ⟨id, uid, name, method, now, now.later t.lifetime⟩
  let kept := (t.clear now).erase id
  (session, { kept with sessions := kept.sessions ++ [session] })

/-- The value that a cookie carries for an id. -/
def cookieValue (t : SessionTable) (id : String) : String := SessionToken.sign t.secret id

/-- The session that a cookie's value leads to, unless it has expired. -/
def get (t : SessionTable) (now : Instant) (value : String) : Option Session × SessionTable :=
  match SessionToken.verify? t.secret value with
  | none => (none, t)
  | some id =>
    match t.find? id with
    | none => (none, t)
    | some s => if s.isExpired now then (none, t.erase id) else (some s, t)

/-- Ends the session that a cookie's value leads to, and gives it back. -/
def remove (t : SessionTable) (value : String) : Option Session × SessionTable :=
  match SessionToken.verify? t.secret value with
  | none => (none, t)
  | some id => (t.find? id, t.erase id)

/-- The number of sessions that have not expired. -/
def active (t : SessionTable) (now : Instant) : Nat := t.sessions.countP (!·.isExpired now)

end SessionTable

end DirectoryLogin
