/-!
# Metrics

Counts of requests, of logins and of accounts made, and the number of active sessions. A
`Series` is one count with its labels, and `Metrics.lines` shows all of them in the text format of
the metrics page. Durations are counted and not measured.
-/

namespace DirectoryLogin.Http

/-- The way in which a login was asked for. -/
inductive LoginKind where
  | password
  | sso
  /-- Single sign-on that ran by itself. -/
  | seamlessSso
  deriving DecidableEq, Repr

def LoginKind.name : LoginKind → String
  | password => "password"
  | sso => "sso"
  | seamlessSso => "seamless_sso"

inductive Series where
  | requests (method : String) (status : Nat)
  | requestDurations (method : String)
  /-- Login attempts; the outcome is the word for success or the code of a failure. -/
  | logins (kind : LoginKind) (outcome : String)
  | loginDurations (kind : LoginKind)
  | provisioned
  | activeSessions
  deriving DecidableEq, Repr

namespace Series

def name : Series → String
  | requests .. => "ldapgate_http_requests_total"
  | requestDurations _ => "ldapgate_http_request_duration_seconds_count"
  | logins .. => "ldapgate_login_attempts_total"
  | loginDurations _ => "ldapgate_login_duration_seconds_count"
  | provisioned => "ldapgate_accounts_provisioned_total"
  | activeSessions => "ldapgate_active_sessions"

def labels : Series → List (String × String)
  | requests method status =>
    [("method", method), ("status", toString status), ("status_class", toString (status / 100) ++ "xx")]
  | requestDurations method => [("method", method)]
  | logins kind outcome => [("kind", kind.name), ("outcome", outcome)]
  | loginDurations kind => [("kind", kind.name)]
  | provisioned => []
  | activeSessions => []

/-- The name with the labels in braces. -/
def text (s : Series) : String :=
  match s.labels with
  | [] => s.name
  | labels =>
    let items := labels.map fun (k, v) => k ++ "=\x22" ++ v ++ "\x22"
    s.name ++ "\x7b" ++ String.intercalate "," items ++ "\x7d"

end Series

/-- The series that have a value, each once. -/
structure Metrics where
  values : List (Series × Nat)
  deriving DecidableEq, Repr

namespace Metrics

def empty : Metrics := ⟨[]⟩

/-- The value of a series, zero if it has none. -/
def value (m : Metrics) (s : Series) : Nat := ((m.values.find? (·.1 == s)).map (·.2)).getD 0

/-- Gives a series a value. -/
def set (m : Metrics) (s : Series) (n : Nat) : Metrics :=
  ⟨(s, n) :: m.values.filter (·.1 != s)⟩

/-- Counts one more. -/
def bump (m : Metrics) (s : Series) : Metrics := m.set s (m.value s + 1)

/-- The word for a successful login. -/
def successWord : String := "success"

/-- Counts a login attempt. -/
def login (m : Metrics) (kind : LoginKind) (outcome : String) : Metrics :=
  (m.bump (.logins kind outcome)).bump (.loginDurations kind)

/-- Counts a request. -/
def request (m : Metrics) (method : String) (status : Nat) : Metrics :=
  (m.bump (.requests method status)).bump (.requestDurations method)

/-- One line for each series, sorted. -/
def lines (m : Metrics) : List String :=
  (m.values.map fun (s, n) => s.text ++ " " ++ toString n).mergeSort fun a b => a ≤ b

end Metrics

end DirectoryLogin.Http
