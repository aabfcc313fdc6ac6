import DirectoryLogin.Text.Percent
import DirectoryLogin.Text.Search

/-!
# Where accounts are kept

The location of the account database, written as a URL: a path after `sqlite:` and parameters
after a question mark, as in `sqlite:///var/lib/ldapgate/ldapgate.db?mode=rwc`.
-/

namespace DirectoryLogin

structure StoreLocation where
  path : String
  /-- The database lives in memory and ends with the program. -/
  inMemory : Bool
  /-- A database that is missing is made. -/
  create : Bool
  deriving DecidableEq, Repr

/-- What is wrong with the URL of a database. -/
inductive LocationFault where
  | unknownValue (parameter value : String)
  | unknownParameter (name : String)
  deriving DecidableEq, Repr

/-- The wording of a fault. -/
def LocationFault.message : LocationFault → String
  | unknownValue parameter value =>
    s!"error with configuration: unknown value \x22{value}\x22 for \x60{parameter}\x60"
  | unknownParameter name =>
    s!"error with configuration: unknown query parameter \x60{name}\x60 while parsing connection URL"

namespace StoreLocation

/-- Drops a text from the beginning as often as it stands there. -/
def dropRepeated (start : List Char) : List Char → List Char
  | [] => []
  | c :: rest =>
    if start.isPrefixOf (c :: rest) then dropRepeated start (rest.drop (start.length - 1))
    else c :: rest
  termination_by cs => cs.length
  decreasing_by simp +arith

/-- The values that a parameter can have; nothing where any value will do. -/
def valuesOf? : String → Option (List String)
  | "mode" => some ["ro", "rw", "rwc", "memory"]
  | "cache" => some ["private", "shared"]
  | "immutable" => some ["true", "1", "false", "0"]
  | "vfs" => some []
  | _ => none

/-- A parameter is known and has one of its values. -/
def checkParameter (name value : String) : Except LocationFault Unit :=
  match valuesOf? name with
  | none => .error (.unknownParameter name)
  | some values =>
    if values.isEmpty || values.contains value then .ok () else .error (.unknownValue name value)

/-- Reads the URL of a database. The scheme may be left out. -/
def ofUrl (url : String) : Except LocationFault StoreLocation := do
  let bare := dropRepeated "sqlite:".toList (dropRepeated "sqlite://".toList url.toList)
  let (path, parameters) := match Text.cutFirst? '?' bare with
    | some (path, query) => (String.ofList path, Text.formFields (String.ofList query))
    | none => (String.ofList bare, [])
  parameters.forM fun (name, value) => checkParameter name value
  .ok {
    path
    inMemory := path == ":memory:" || parameters.contains ("mode", "memory")
    create := parameters.contains ("mode", "rwc") }

end StoreLocation

end DirectoryLogin
