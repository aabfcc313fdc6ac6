import DirectoryLogin.Directory.Server
import DirectoryLogin.Settings.Authorization
import DirectoryLogin.Settings.Codec
import DirectoryLogin.Toml.Reader

/-!
# Site settings

All that a site is configured with: where it listens, where it keeps its accounts, who owns it,
how sessions and logging work, its servers, and the authentication and authorization settings it
starts with. They come from a TOML document, from the environment, or from both.
-/

namespace DirectoryLogin.Settings

open Json (Reads Record)

structure Listener where
  bindAddress : String
  port : Nat
  requestTimeoutSecs : Nat
  deriving DecidableEq, Repr

structure Database where
  url : String
  maxConnections : Nat
  deriving DecidableEq, Repr

structure Owner where
  name : String
  mail : Option String
  /-- The password that the owner's account is made with. -/
  password : Option String
  deriving DecidableEq, Repr

structure Sessions where
  /-- The key that session cookies are signed with. -/
  secret : String
  ttlSeconds : Nat
  cookieSecure : Bool
  deriving DecidableEq, Repr

structure Logging where
  level : String
  format : String
  deriving DecidableEq, Repr

structure Site where
  listener : Listener
  database : Database
  owner : Owner
  sessions : Sessions
  logging : Logging
  servers : List ServerDefinition
  authentication : Authentication
  authorization : Authorization
  deriving DecidableEq, Repr

/-! ## Defaults -/

def Listener.default : Listener := ⟨"0.0.0.0", 8080, 30⟩

def Database.default : Database := ⟨"sqlite:///var/lib/ldapgate/ldapgate.db?mode=rwc", 16⟩

def Owner.default : Owner := ⟨"admin", none, none⟩

def Sessions.default : Sessions := ⟨"", 28800, true⟩

def Logging.default : Logging := ⟨"info", "pretty"⟩

def Site.default : Site :=
  ⟨.default, .default, .default, .default, .default, [], .default, .default⟩

/-! ## Records -/

def Listener.record : Record Listener :=
  Listener.mk <$> .required "bind_address" .string
    <*> .required "port" (.unsigned 16)
    <*> .required "request_timeout_secs" (.unsigned 64)

def Database.record : Record Database :=
  Database.mk <$> .required "url" .string <*> .required "max_connections" (.unsigned 32)

/-- The optional fields may be absent from an object and not from an array. -/
def Owner.record : Record Owner :=
  Owner.mk <$> .required "owner_name" .string
    <*> .fieldNamed "owner_mail" [] (.option .string) (some none) none
    <*> .fieldNamed "owner_password" [] (.option .string) (some none) none

def Sessions.record : Record Sessions :=
  Sessions.mk <$> .required "secret" .string
    <*> .required "ttl_seconds" (.unsigned 64)
    <*> .required "cookie_secure" .bool

def Logging.record : Record Logging :=
  Logging.mk <$> .required "level" .string <*> .required "format" .string

def Listener.toJson (c : Listener) : Json := .object [
  ("bind_address", .string c.bindAddress),
  ("port", .integer c.port),
  ("request_timeout_secs", .integer c.requestTimeoutSecs)]

def Database.toJson (c : Database) : Json :=
  .object [("url", .string c.url), ("max_connections", .integer c.maxConnections)]

def Owner.toJson (c : Owner) : Json := .object [
  ("owner_name", .string c.name),
  ("owner_mail", .ofOption c.mail),
  ("owner_password", .ofOption c.password)]

def Sessions.toJson (c : Sessions) : Json := .object [
  ("secret", .string c.secret),
  ("ttl_seconds", .integer c.ttlSeconds),
  ("cookie_secure", .bool c.cookieSecure)]

def Logging.toJson (c : Logging) : Json :=
  .object [("level", .string c.level), ("format", .string c.format)]

namespace Site

def record : Record Site :=
  Site.mk <$> .field "server" Listener.record.reads .default
    <*> .field "database" Database.record.reads .default
    <*> .field "site" Owner.record.reads .default
    <*> .field "session" Sessions.record.reads .default
    <*> .field "logging" Logging.record.reads .default
    <*> .field "servers" (.list ServerDefinition.record.reads) []
    <*> .field "authentication" Authentication.record.reads .default
    <*> .field "authorization" Authorization.record.reads .default

def toJson (c : Site) : Json := .object [
  ("server", c.listener.toJson),
  ("database", c.database.toJson),
  ("site", c.owner.toJson),
  ("session", c.sessions.toJson),
  ("logging", c.logging.toJson),
  ("servers", .array (c.servers.map ServerDefinition.toJson)),
  ("authentication", c.authentication.toJson),
  ("authorization", c.authorization.toJson)]

/-- The settings of a TOML document. -/
def ofToml? (text : String) : Option Site :=
  match Toml.parse? text with
  | none => none
  | some v => (record.reads Toml.dialect v).toOption

/-! ## Environment -/

/-- A natural number below a bound: digits, a plus sign in front allowed. -/
def naturalBelow? (bound : Nat) (text : String) : Option Nat :=
  let digits := match text.toList with
    | '+' :: rest => rest
    | cs => cs
  if digits.isEmpty || !digits.all Char.isDigit then none
  else
    let n := Json.digitsValue digits
    if n < bound then some n else none

/-- A port number. -/
def port? (text : String) : Option Nat := naturalBelow? 65536 text

/-- The settings with those replaced that the environment names. A port that is no port number is
ignored. -/
def withEnvironment (c : Site) (env : String → Option String) : Site where
  listener := {
    c.listener with
    bindAddress := (env "LDAPGATE_BIND_ADDRESS").getD c.listener.bindAddress
    port := ((env "LDAPGATE_PORT").bind port?).getD c.listener.port }
  database := { c.database with url := (env "LDAPGATE_DATABASE_URL").getD c.database.url }
  owner := {
    c.owner with
    name := (env "LDAPGATE_SITE_OWNER_NAME").getD c.owner.name
    password := env "LDAPGATE_SITE_OWNER_PASSWORD" <|> c.owner.password }
  sessions := { c.sessions with secret := (env "LDAPGATE_SESSION_SECRET").getD c.sessions.secret }
  logging := {
    level := (env "LDAPGATE_LOG_LEVEL").getD c.logging.level
    format := (env "LDAPGATE_LOG_FORMAT").getD c.logging.format }
  servers := c.servers
  authentication := c.authentication
  authorization := c.authorization

/-- The settings of a site without a document. -/
def ofEnvironment (env : String → Option String) : Site := default.withEnvironment env

/-! ## Checks -/

/-- What is wrong with the settings of a site. -/
inductive Flaw where
  | server (flaw : ServerFlaw)
  | duplicateServer (sid : String)
  | authentication (refusal : Refusal)
  | ownerNameMissing
  | secretTooShort
  deriving DecidableEq, Repr

/-- The wording of a flaw. -/
def Flaw.message : Flaw → String
  | server flaw => flaw.message
  | duplicateServer sid => s!"Duplicate LDAP server sid '{sid}'"
  | authentication refusal => refusal.message
  | ownerNameMissing => "Site owner name is required"
  | secretTooShort => "Session secret must be at least 16 characters"

/-- Checks the servers in order, each definition by itself and then against those before it. -/
def checkServers (seen : List String) : List ServerDefinition → Except Flaw Unit
  | [] => .ok ()
  | s :: rest => do
    s.validate.mapError .server
    if seen.contains s.sid then .error (.duplicateServer s.sid)
    else checkServers (s.sid :: seen) rest

/-- The fewest bytes of a session secret. -/
def minSecretBytes : Nat := 16

/-- The first flaw of the settings. -/
def validate (c : Site) : Except Flaw Unit := do
  checkServers [] c.servers
  (c.authentication.validate (c.servers.map (·.sid))).mapError .authentication
  if Text.isBlankText c.owner.name then .error .ownerNameMissing
  else if c.sessions.secret.utf8ByteSize < minSecretBytes then .error .secretTooShort
  else .ok ()

/-- The definition of the server with an id. -/
def server? (c : Site) (sid : String) : Option ServerDefinition := c.servers.find? (·.sid == sid)

end Site

end DirectoryLogin.Settings
