import DirectoryLogin.CommandLine.Report
import DirectoryLogin.Json.Printer

/-!
# The program

The outer layer of the program: it reads the environment and the files that a run needs, and prints
the report. It has no way of its own to a directory server, to a database or to the network, so each
of them counts as out of reach.
-/

namespace DirectoryLogin.CommandLine

/-- The text of a file, if it can be read. -/
def readText? (path : String) : IO (Option String) := do
  try
    return some (← IO.FS.readFile path)
  catch _ => return none

/-- The words of a text that can be names of variables, with underscores and without. -/
def wordsOf (text : String) : List String :=
  let words (isPart : Char → Bool) :=
    (text.toList.splitBy fun a b => isPart a == isPart b).map String.ofList
  words Char.isAlphanum ++ words fun c => c.isAlphanum || c == '_'

/-- The variables of the environment that a run can ask for, beside those that its file names. -/
def variableNames (text : Option String) : List String :=
  Scope.program.settings.map Setting.variableName ++
    [filterVariable, "LDAPGATE_SITE_OWNER_NAME", "LDAPGATE_SITE_OWNER_PASSWORD",
      "LDAPGATE_SESSION_SECRET"] ++ wordsOf (text.getD "")

/-- The pairs of a list as a function. -/
def lookup (pairs : List (String × String)) (name : String) : Option String :=
  (pairs.find? (·.1 == name)).map (·.2)

/-- The values that are there. -/
def readAll (get : String → IO (Option String)) (names : List String) :
    IO (List (String × String)) := do
  let found ← names.mapM fun name => do return (← get name).map fun value => (name, value)
  return found.filterMap id

/-- The line of an event. -/
def eventLine (asJson : Bool) (e : Log.Event) : String :=
  if asJson then
    (Json.object [("level", .string e.level.name),
      ("fields", .object [("message", .string e.message)]), ("target", .string e.source)]).print
  else s!"{e.level.name} {e.source}: {e.message}"

end DirectoryLogin.CommandLine

open DirectoryLogin.CommandLine in
def main (args : List String) : IO UInt32 := do
  let text ← readText? environmentFile
  let environment := lookup (← readAll (fun name => IO.getEnv name) (variableNames text))
  let settings := match invocation (completed environment text) args with
    | .ok v => (v.value? .config).toList
    | .error _ => []
  let files := lookup (← readAll readText? (environmentFile :: settings))
  let report := run {
    environment
    file? := files
    contact := fun _ => .error (.unavailable "Failed to connect to LDAP server")
    openStore := fun _ => .error
      "error returned from database: (code: 14) unable to open database file"
    listen := fun _ => .error "Cannot assign requested address (os error 99)" } args
  for line in report.output do IO.println line
  for e in report.events do IO.println (eventLine report.asJson e)
  for line in report.complaints do IO.eprintln line
  return report.exitCode.toUInt32
