import DirectoryLogin.Directory.Entry
import DirectoryLogin.Directory.Server
import DirectoryLogin.Text.Blank

/-!
# Directory identities

An identity is an entry together with the server that holds it and the name under which it was
found. From it come the name of the local account, the mail address and the authname, the key that
links the identity to its account.
-/

namespace DirectoryLogin

/-- The key form of an account name. -/
def authnameOf (name : String) : String := Text.lower (Text.trim name)

structure Identity where
  entry : Entry
  /-- The name as it was submitted or asserted, trimmed. -/
  username : String
  /-- The server that holds the entry. -/
  definition : ServerDefinition
  deriving DecidableEq, Repr

namespace Identity

def sid (i : Identity) : String := i.definition.sid

/-- The trimmed first value of an attribute, a blank one left out. -/
def text? (i : Identity) (name : String) : Option String := (i.entry.value? name).bind Text.nonBlank?

/-- The name for the local account. -/
def accountName (i : Identity) : String := (i.text? i.definition.accountNameAttr).getD i.username

def mail (i : Identity) : Option String := i.text? i.definition.mailAttribute

/-- The value that identifies the entry for good, where the server has such an attribute. -/
def persistentId (i : Identity) : Option String := i.definition.persistentAttribute.bind i.text?

/-- The key that links the identity to its account. -/
def authname (i : Identity) : String := i.persistentId.getD (authnameOf i.accountName)

variable {i : Identity}

theorem authname_of_id {p : String} (h : i.persistentId = some p) : i.authname = p := by
  rw [authname, h, Option.getD_some]

theorem authname_of_noId (h : i.persistentId = none) : i.authname = authnameOf i.accountName := by
  rw [authname, h, Option.getD_none]

theorem accountName_of_text {n : String} (h : i.text? i.definition.accountNameAttr = some n) :
    i.accountName = n := by
  rw [accountName, h, Option.getD_some]

theorem accountName_of_noText (h : i.text? i.definition.accountNameAttr = none) :
    i.accountName = i.username := by
  rw [accountName, h, Option.getD_none]

end Identity

end DirectoryLogin
