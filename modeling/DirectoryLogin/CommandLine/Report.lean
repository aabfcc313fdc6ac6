import DirectoryLogin.Account.Location
import DirectoryLogin.CommandLine.Arguments
import DirectoryLogin.CommandLine.Help
import DirectoryLogin.Directory.Behaviour
import DirectoryLogin.Failure.Kind
import DirectoryLogin.Log.Filter
import DirectoryLogin.Predicate.Parser
import DirectoryLogin.Settings.EnvironmentFile

/-!
# Running a command

A run goes from the arguments to a `Report`: the exit code, the lines printed, the events logged
and the complaints. What a run meets outside the program stands in `Surroundings`.

The settings of a run come from a file, over which the environment goes, over which the options
go.
-/

namespace DirectoryLogin.CommandLine

open Log (Event)
open Settings (Site)

/-- What a run meets outside the program. -/
structure Surroundings where
  /-- The environment that the program is started with. -/
  environment : String → Option String
  /-- The text of a file. -/
  file? : String → Option String
  /-- What a directory server says about itself. -/
  contact : ServerDefinition → Except DirectoryError ServerInfo
  /-- Opens a database, or tells why it cannot be opened. -/
  openStore : StoreLocation → Except String Unit
  /-- Serves at an address until stopped, or tells why that is impossible. -/
  listen : String → Except String Unit

/-- Why a run fails. -/
inductive RunFailure where
  | unreadableFile (path detail : String)
  | unreadableSettings (path detail : String)
  | flawed (flaw : Site.Flaw)
  | predicate (error : Predicate.PredicateError)
  | unreachable (count : Nat)
  | database (detail : String)
  | listening (detail : String)
  deriving DecidableEq, Repr

namespace RunFailure

/-- The wording of a failure, and of the cause behind it. -/
def wording : RunFailure → String × Option String
  | unreadableFile path detail =>
    (s!"loading {path}", some (FailureKind.configError.describe s!"Failed to read config: {detail}"))
  | unreadableSettings path detail =>
    (s!"loading {path}", some (FailureKind.configError.describe s!"Failed to parse config: {detail}"))
  | flawed flaw => (FailureKind.configError.describe flaw.message, none)
  | predicate error => ("allow predicate", some error.display)
  | unreachable count => (s!"{count} directory server(s) unreachable", none)
  | database detail => (FailureKind.databaseError.describe detail, none)
  | listening detail => (FailureKind.io.describe detail, none)

/-- The lines that a failure is told in. -/
def lines (f : RunFailure) : List String :=
  let (message, cause) := f.wording
  let told := Text.splitOn '\n' s!"Error: {message}"
  match cause with
  | none => told
  | some cause => told ++ ["", "Caused by:"] ++ (Text.splitOn '\n' cause).map ("    " ++ ·)

end RunFailure

/-! ## Settings -/

/-- The settings with those replaced that options give. -/
def withOptions (c : Site) (v : Invocation) : Site := {
  c with
  listener := {
    c.listener with
    bindAddress := (v.value? .bindAddress).getD c.listener.bindAddress
    port := ((v.value? .port).bind portNumber?).getD c.listener.port }
  database := { c.database with url := (v.value? .databaseUrl).getD c.database.url }
  logging := {
    level := (v.value? .logLevel).getD c.logging.level
    format := (v.value? .logFormat).getD c.logging.format } }

/-- The settings of a run. -/
def loadSettings (env file? : String → Option String) (v : Invocation) :
    Except RunFailure Site := do
  let base ← match v.value? .config with
    | none => .ok .default
    | some path =>
      match file? path with
      | none => .error (.unreadableFile path "No such file or directory (os error 2)")
      | some text =>
        match Site.ofToml? text with
        | some c => .ok c
        | none => .error (.unreadableSettings path "the document holds no settings")
  .ok (withOptions (base.withEnvironment env) v)

/-- The variable whose value is a filter that comes before that of the settings. -/
def filterVariable : String := "RUST_LOG"

/-- The filter of a run, with a line for each of its faulty directives. -/
def filterOf (env : String → Option String) (c : Site) : Log.Filter × List String :=
  match (env filterVariable).bind Log.Filter.ofText? with
  | some f => (f, [])
  | none => (.ofTextLossy c.logging.level, Log.Filter.faults c.logging.level)

/-! ## Commands -/

/-- The events of a command, and its failure if it fails. -/
structure Course where
  events : List Event
  failure : Option RunFailure
  deriving DecidableEq, Repr

namespace Course

/-- An event of the program itself. -/
def note (level : Log.Level) (message : String) : Event := ⟨level, "ldapgate", message⟩

/-- An event of the part that serves logins. -/
def serverNote (message : String) : Event := ⟨.info, "ldapgate_api::server", message⟩

/-- An event of the part that keeps accounts. -/
def storeNote (message : String) : Event := ⟨.info, "ldapgate_metadata::repository", message⟩

/-- Events before a course. -/
def after (events : List Event) (c : Course) : Course := { c with events := events ++ c.events }

/-- A course without events. -/
def ending (failure : Option RunFailure) : Course := ⟨[], failure⟩

end Course

open Course (note serverNote storeNote after ending)

/-- The events of trying one server, and whether it failed. -/
def tryServer (contact : ServerDefinition → Except DirectoryError ServerInfo)
    (s : ServerDefinition) : List Event × Bool :=
  if !s.enabled then ([note .info "Skipping disabled server"], false)
  else
    let attempt : Event := ⟨.debug, "ldapgate_auth::ldap::client", "Connecting to LDAP server"⟩
    match contact s with
    | .ok _ => ([attempt, note .info "✅ Connection successful"], false)
    | .error _ => ([attempt, note .error "❌ Connection failed"], true)

/-- Tries the servers of a site, whose ids are pairwise different. -/
def tryServers (contact : ServerDefinition → Except DirectoryError ServerInfo) (c : Site) :
    Course :=
  let tried := c.servers.map (tryServer contact)
  let failed := tried.countP (·.2)
  ⟨tried.flatMap (·.1), if failed == 0 then none else some (.unreachable failed)⟩

/-- Looks at the settings. -/
def checkSettings (contact : ServerDefinition → Except DirectoryError ServerInfo) (c : Site)
    (testConnections : Bool) : Course :=
  match c.validate with
  | .error flaw => ending (some (.flawed flaw))
  | .ok () =>
    after [note .info "Configuration is valid"] <|
      let last := if testConnections then tryServers contact c else ending none
      match c.authentication.predicateSource with
      | none => last
      | some source =>
        match Predicate.parse source with
        | .error e => ending (some (.predicate e))
        | .ok _ => after [note .info "Allow predicate parses"] last

/-- The address that logins are served at. -/
def addressOf (c : Site) : String := s!"{c.listener.bindAddress}:{c.listener.port}"

/-- Opens the accounts, makes the owner's account and listens. -/
def openAndListen (around : Surroundings) (c : Site) : Course :=
  let opened : Except String Unit := do
    let location ← (StoreLocation.ofUrl c.database.url).mapError (·.message)
    around.openStore location
  match opened with
  | .error detail => ending (some (.database detail))
  | .ok () =>
    let locked := if c.owner.password.isSome then [] else
      [serverNote "Site owner has no local password; admin API is locked"]
    after ([storeNote "Account store initialized",
      serverNote "Directory servers registered",
      storeNote "Created site owner account"] ++ locked) <|
      match around.listen (addressOf c) with
      | .error detail => ending (some (.listening detail))
      | .ok () =>
        ⟨[serverNote s!"🚀 ldapgate listening on http://{addressOf c}",
          serverNote s!"🔐 Login form at http://{addressOf c}/user/login",
          serverNote s!"📊 Admin API available at http://{addressOf c}/api/v1",
          serverNote s!"📈 Prometheus metrics at http://{addressOf c}/metrics"], none⟩

/-- Serves logins. -/
def serve (around : Surroundings) (c : Site) : Course :=
  after [note .info "Starting ldapgate server...", note .info s!"Database: {c.database.url}"] <|
    match c.validate with
    | .error flaw => ending (some (.flawed flaw))
    | .ok () =>
      after [serverNote "Prometheus metrics initialized"] (openAndListen around c)

/-- The name of the program in large letters, what it is for and its version. -/
def banner : List String := [
  "",
  "    _     _",
  "   | | __| | __ _ _ __   __ _  __ _| |_ ___",
  "   | |/ _\x60 |/ _\x60 | \x27_ \\ / _\x60 |/ _\x60 | __/ _ \\",
  "   | | (_| | (_| | |_) | (_| | (_| | ||  __/",
  "   |_|\\__,_|\\__,_| .__/ \\__, |\\__,_|\\__\\___|",
  "                 |_|    |___/",
  "",
  s!"   {programAbout}",
  s!"   Version: {programVersion}",
  ""]

/-- Runs a command with its settings. -/
def Command.course (around : Surroundings) (c : Site) : Command → Course
  | server => serve around c
  | checkConfig testConnections => checkSettings around.contact c testConnections
  | version => ending none

/-- The lines that a command prints before it starts. -/
def Command.greeting : Command → List String
  | server => banner
  | checkConfig _ => []
  | version => banner

/-! ## Reports -/

/-- What a run leaves. -/
structure Report where
  exitCode : Nat
  output : List String
  /-- The events that the filter lets through, in order. They follow the output. -/
  events : List Event
  /-- Events are written as JSON. -/
  asJson : Bool
  complaints : List String
  deriving DecidableEq, Repr

namespace Report

/-- A run that prints lines and does nothing else. -/
def printing (output : List String) : Report := ⟨0, output, [], false, []⟩

/-- A run that fails before logging begins. -/
def failing (exitCode : Nat) (complaints : List String) : Report :=
  ⟨exitCode, [], [], false, complaints⟩

/-- What is told of arguments that cannot be understood. -/
def misuse : Report := failing 2 [
  "error: the arguments are not understood",
  "",
  s!"Usage: {programName} [OPTIONS] [COMMAND]",
  "",
  "For more information, try \x27--help\x27."]

/-- A run that ended while reading the arguments. -/
def ofEnding (env : String → Option String) : Ending → Report
  | .help page => printing (page.lines env)
  | .version => printing [s!"{programName} {programVersion}"]
  | .misuse => misuse

end Report

/-- Runs an invocation. -/
def Invocation.run (around : Surroundings) (env : String → Option String) (v : Invocation) :
    Report :=
  match loadSettings env around.file? v with
  | .error failure => .failing 1 failure.lines
  | .ok c =>
    let (filter, faults) := filterOf env c
    let course := v.command.course around c
    { exitCode := if course.failure.isSome then 1 else 0
      output := v.command.greeting
      events := course.events.filter filter.admits
      asJson := Text.sameAscii c.logging.format "json"
      complaints := faults ++ (course.failure.map RunFailure.lines).getD [] }

/-- The file that completes the environment. -/
def environmentFile : String := ".env"

/-- The environment of a run, completed by its file if there is one. -/
def completed (environment : String → Option String) (text : Option String) :
    String → Option String :=
  match text with
  | some text => Settings.EnvironmentFile.complete environment text
  | none => environment

/-- Reads the arguments, with the environment behind them. -/
def invocation (env : String → Option String) (args : List String) : Except Ending Invocation := do
  (← parse args).withEnvironment env

/-- Runs the program. -/
def run (around : Surroundings) (args : List String) : Report :=
  let env := completed around.environment (around.file? environmentFile)
  match invocation env args with
  | .ok v => v.run around env
  | .error e => .ofEnding env e

end DirectoryLogin.CommandLine
