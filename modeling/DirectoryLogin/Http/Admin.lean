import DirectoryLogin.Http.MediaType
import DirectoryLogin.Http.Portal
import DirectoryLogin.Program
import DirectoryLogin.Settings.Form

/-!
# The administration pages

Health is open to everybody. The other pages show and change the authentication settings, show the
servers and put one to the test, and list the accounts; they are for the site owner, which the
router sees to.
-/

namespace DirectoryLogin.Http.Portal

open Directory (Question)
open Json (Record)
open Settings (Authentication Form)

/-! ## Health -/

/-- What one directory's health is shown as. A disabled one is not asked. -/
def directoryHealth (d : Directory) : Json :=
  let entry (reachable : Bool) (error : List (String × Json)) := Json.object
    ([("sid", .string d.sid), ("enabled", .bool d.definition.enabled), ("reachable", .bool reachable)]
      ++ error)
  if d.definition.enabled then
    match d.testConnection with
    | .ok _ => entry true []
    | .error e => entry false [("error", .string e.message)]
  else entry false []

/-- An enabled directory does not answer. -/
def isDown (d : Directory) : Bool := d.definition.enabled && !d.testConnection.isOk

/-- The word for the state of the site. -/
def healthWord (storeUp : Bool) (directories : List Directory) : String :=
  if !storeUp then "unhealthy" else if directories.any isDown then "degraded" else "healthy"

/-- How long the portal has been running, in whole seconds. -/
def uptime (p : Portal) (m : Moment) : Int := m.now.seconds - p.startedAt.seconds

/-- Shows whether the store and the directories answer. -/
def health (p : Portal) (m : Moment) (s : State) : Exchange :=
  let directories := p.realm.registry.all
  let (up, _) := s.service.store.perform .healthCheck
  let store := match up with
    | .ok () => Json.object [("healthy", .bool true)]
    | .error e =>
      .object [("healthy", .bool false), ("error", .string (Failure.store e).describe)]
  .reply (.json (if up.isOk then 200 else 503) (.object [
    ("status", .string (healthWord up.isOk directories)),
    ("version", .string programVersion),
    ("uptime_seconds", .integer (p.uptime m)),
    ("store", store),
    ("directories", .array (directories.map directoryHealth)),
    ("active_sessions", .integer (s.sessions.active m.now))])) s

/-! ## Settings -/

/-- Settings, also as a form. -/
def settingsJson (c : Authentication) : Json :=
  .object [("config", c.toJson), ("form", (Form.ofSettings c).toJson)]

/-- Shows the settings in force. -/
def showSettings (s : State) : Exchange := .reply (.success (settingsJson s.service.live)) s

/-- The submitted form, or the refusal of a body that holds none. -/
def formOf (r : Request) : Except Response Form :=
  if !((r.header? "content-type").any MediaType.isJson) then
    .error (.plain 415 "A JSON body is expected")
  else if r.isTooLong then .error .tooLong
  else
    match Form.record.reads.ofText r.body with
    | .ok form => .ok form
    | .error .torn => .error (.plain 400 "The body is not JSON")
    | .error .mismatch => .error (.plain 422 "The body is not a settings form")

/-- The response to new settings that were not taken over. -/
def refusedSettings (f : Failure) : Response :=
  match f with
  | .settings refusal => .error 400 refusal.message
  | f => .error 500 f.describe

/-- Takes over the settings of a submitted form. -/
def changeSettings (p : Portal) (r : Request) (s : State) : Exchange :=
  match formOf r with
  | .error response => .reply response s
  | .ok form =>
    let c := form.toSettings s.service.live
    match s.service.update p.realm c with
    | (.error f, service) => .reply (refusedSettings f) { s with service }
    | (.ok (), service) => .reply (.success (settingsJson c)) { s with service }

/-! ## Servers -/

/-- Shows the server definitions, without passwords. -/
def showServers (p : Portal) (s : State) : Exchange :=
  .reply (.success (.array (p.realm.registry.all.map (·.definition.publicJson)))) s

/-- The user name to look for in a test, if one is submitted. -/
def testRecord : Record (Option String) := .field "username" (.option .string) none

/-- The trimmed user name in the body of a test. An empty body submits none. -/
def testUsername? (r : Request) : Except Json.Fault (Option String) :=
  if r.body.isEmpty then .ok none
  else (testRecord.reads.ofText r.body).map fun name => name.bind Text.nonBlank?

/-- What a search for a user name found: the entry's values as the directory has them. -/
def searchJson (d : Directory) (username : String)
    (found : Except DirectoryError (Option Entry)) : Json :=
  let result (entry : Option Entry) (error : Option String) := Json.object [
    ("username", .string username),
    ("found", .bool entry.isSome),
    ("dn", .ofOption (entry.map (·.dn))),
    ("account_name", .ofOption (entry.bind (·.value? d.definition.accountNameAttr))),
    ("mail", .ofOption (entry.bind (·.value? d.definition.mailAttribute))),
    ("persistent_id", .ofOption (entry.bind fun e => d.definition.persistentAttribute.bind e.value?)),
    ("error", .ofOption error)]
  match found with
  | .ok entry => result entry none
  | .error e => result none (some e.message)

/-- What the test of a connection showed. -/
def connectionJson (sid : String) (tested : Except DirectoryError ServerInfo) : Json :=
  let result (success : Bool) (message : String) (info : Json) := Json.object [
    ("sid", .string sid),
    ("success", .bool success),
    ("message", .string message),
    ("server_info", info)]
  match tested with
  | .ok info => result true "Connection successful" info.toJson
  | .error e => result false s!"Connection failed: {e.message}" .null

/-- Tests the connection to a server and, once connected, the search for a user name. -/
def testDirectory (d : Directory) (sid : String) (username : Option String) :
    Json × List Question :=
  let tested := d.testConnection
  let connection := ("connection", connectionJson sid tested)
  match username, tested with
  | some name, .ok _ =>
    (.object [connection, ("search", searchJson d name (d.findEntry name none))],
      [.findEntry d.sid name none])
  | _, _ => (.object [connection], [])

/-- Puts a server to the test. -/
def testServer (p : Portal) (sid : String) (r : Request) (s : State) : Exchange :=
  if r.isTooLong then .reply .tooLong s
  else match testUsername? r with
  | .error _ => .reply (.error 400 "Invalid request: a user name expected") s
  | .ok username =>
    match p.realm.registry.get? sid with
    | none => .reply (.error 404 s!"Unknown LDAP server '{sid}'") s
    | some d =>
      let (data, questions) := testDirectory d sid username
      ⟨.success data, s, questions⟩

/-! ## Accounts -/

/-- Lists the accounts. -/
def showAccounts (s : State) : Exchange :=
  match s.service.store.listAccounts with
  | .ok accounts => .reply (.success (.array (accounts.map Account.toJson))) s
  | .error e => .reply (.error 500 (Failure.store e).describe) s

end DirectoryLogin.Http.Portal
