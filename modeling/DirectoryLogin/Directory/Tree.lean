import DirectoryLogin.Directory.Behaviour
import DirectoryLogin.Program
import DirectoryLogin.Text.Blank

/-!
# A directory in memory

A `Tree` holds entries with their passwords and answers as a server with these entries would. It
finds an entry by a value of the user attribute, among the entries whose name ends in one of the
base names; more than one match is an error. Names, attribute values and passwords of a tree never
change, but it can be unavailable.
-/

namespace DirectoryLogin

/-- An entry and the password that belongs to it. -/
structure StoredEntry where
  entry : Entry
  password : String
  deriving DecidableEq, Repr

structure Tree where
  definition : ServerDefinition
  entries : List StoredEntry
  unavailable : Bool
  deriving DecidableEq, Repr

namespace Tree

/-- A tree of entries, which take its id. -/
def ofEntries (definition : ServerDefinition) (entries : List StoredEntry) (unavailable : Bool) : Tree :=
  ⟨definition, entries.map fun s => { s with entry := { s.entry with sid := definition.sid } },
    unavailable⟩

/-- The error of a tree that is unavailable. -/
def unavailableError (t : Tree) : DirectoryError :=
  .unavailable s!"Failed to connect to LDAP server: {t.definition.url}"

/-- The name ends in one of the base names, without regard to ASCII letter case. -/
def inBase (t : Tree) (dn : String) : Bool :=
  t.definition.baseDns.any fun base =>
    !Text.isBlankText base && Text.endsWith (Text.lowerAscii dn) (Text.lowerAscii (Text.trim base))

/-- A value of the user attribute is the user name, without regard to ASCII letter case. -/
def answersTo (t : Tree) (e : Entry) (username : String) : Bool :=
  (e.values t.definition.userAttribute).any (Text.sameAscii · username)

/-- The stored entries that a user name leads to. -/
def hits (t : Tree) (username : String) : List StoredEntry :=
  t.entries.filter fun s => t.inBase s.entry.dn && t.answersTo s.entry username

/-- Binds as the user of an entry, where searches are made on behalf of the user. -/
def bindAsUser (t : Tree) (s : StoredEntry) (password : Option String) : Except DirectoryError Unit :=
  match t.definition.bindMethod, password.filter (!·.isEmpty) with
  | .user, none =>
    .error (.misconfigured s!"Server '{t.definition.sid}' binds as the user and needs a password")
  | .user, some p => if p = s.password then .ok () else .error .invalidCredentials
  | _, _ => .ok ()

/-- The entry of a user name. -/
def findEntry (t : Tree) (username : String) (password : Option String) :
    Except DirectoryError (Option Entry) :=
  if t.unavailable then .error t.unavailableError
  else match t.hits username with
    | [] => .ok none
    | [s] => do
      t.bindAsUser s password
      .ok (some s.entry)
    | many => .error (.ambiguous many.length)

/-- The password belongs to a stored entry of the same name. An empty password never does. -/
def verifyPassword (t : Tree) (e : Entry) (password : String) : Except DirectoryError Bool :=
  if t.unavailable then .error t.unavailableError
  else .ok (!password.isEmpty &&
    t.entries.any fun s => Text.sameAscii s.entry.dn e.dn && s.password == password)

/-- What the tree says about itself. -/
def testConnection (t : Tree) : Except DirectoryError ServerInfo :=
  if t.unavailable then .error t.unavailableError
  else .ok ⟨some programName, some programVersion, t.definition.baseDns, ["3"]⟩

/-- The tree as a directory. -/
def toDirectory (t : Tree) : Directory where
  definition := t.definition
  findEntry := t.findEntry
  verifyPassword := t.verifyPassword
  testConnection := t.testConnection

end Tree

end DirectoryLogin
