import DirectoryLogin.Account.Basic
import DirectoryLogin.Text.Blank
import DirectoryLogin.Text.LowerCase

/-!
# The account store

The store holds accounts, links and named settings texts. Names of accounts are unique up to ASCII
letter case, a link is unique in its module and authname, and a link needs its account. Uids start
at 2, the uid 1 being kept for the site owner, and grow; neither they nor the ids of links are
used twice, and an insertion that fails uses none.

Timestamps are kept as text that allows for years of four digits only. One outside them can be
stored, and every later reading of its account fails.

An operation answers and leaves a store behind, also when it fails.
-/

namespace DirectoryLogin

open Time (Instant)

/-- Why the store refuses an operation. -/
inductive StoreError where
  | nameTaken (name : String)
  | authnameTaken (authname : String)
  | unknownAccount (uid : Int)
  | unreadableTimestamp (at_ : Instant)
  deriving DecidableEq, Repr

structure Store where
  /-- The accounts by increasing uid. -/
  accounts : List Account
  /-- The links by increasing id. -/
  authmaps : List Authmap
  /-- The saved settings texts by name. -/
  settings : List (String × String)
  /-- The greatest uid given out or kept. -/
  lastUid : Int
  /-- The greatest id given out to a link. -/
  lastAid : Int
  deriving DecidableEq, Repr

/-- An answer and the store left behind. -/
abbrev Answer (α : Type) := Except StoreError α × Store

namespace Store

/-- A store without accounts. -/
def empty : Store := ⟨[], [], [], siteOwnerUid, 0⟩

/-! ## Reading -/

/-- A stored timestamp can be read back. -/
def checkTimestamp (t : Instant) : Except StoreError Unit :=
  if Time.fourDigitYear t then .ok () else .error (.unreadableTimestamp t)

/-- Reads a stored account. -/
def readAccount (a : Account) : Except StoreError Account := do
  checkTimestamp a.createdAt
  match a.lastLogin with
  | some t => checkTimestamp t
  | none => .ok ()
  .ok a

/-- Reads a stored account if there is one. -/
def readOptional : Option Account → Except StoreError (Option Account)
  | some a => (readAccount a).map some
  | none => .ok none

/-- The part of a name that is compared letter by letter: it ends before the first NUL. -/
def comparedPart (name : String) : String := String.ofList (name.toList.takeWhile (· != '\x00'))

/-- Account names are the same up to ASCII letter case. Of what follows a NUL only the number of
bytes counts. -/
def sameName (a b : String) : Bool :=
  a.utf8ByteSize == b.utf8ByteSize && Text.sameAscii (comparedPart a) (comparedPart b)

/-- The account with a uid. -/
def account (s : Store) (uid : Int) : Except StoreError (Option Account) :=
  readOptional (s.accounts.find? (·.uid == uid))

/-- The account of a name, which is trimmed first. -/
def accountByName (s : Store) (name : String) : Except StoreError (Option Account) :=
  readOptional (s.accounts.find? (sameName ·.name (Text.trim name)))

/-- All accounts by increasing uid. -/
def listAccounts (s : Store) : Except StoreError (List Account) := s.accounts.mapM readAccount

/-- The account linked to an outside identity. -/
def accountByAuthname (s : Store) (module authname : String) : Except StoreError (Option Account) :=
  match s.authmaps.find? fun m => m.module == module && m.authname == authname with
  | some m => s.account m.uid
  | none => .ok none

/-- The first link of an account in a module. -/
def authmap (s : Store) (uid : Int) (module : String) : Option Authmap :=
  s.authmaps.find? fun m => m.uid == uid && m.module == module

/-- The text saved under a name. -/
def savedSettings (s : Store) (name : String) : Option String :=
  (s.settings.find? (·.1 == name)).map (·.2)

/-! ## Writing -/

/-- Some account has the name already. -/
def nameTaken (s : Store) (name : String) : Bool := s.accounts.any (sameName ·.name name)

/-- Some link has the module and authname already. -/
def authnameTaken (s : Store) (module authname : String) : Bool :=
  s.authmaps.any fun m => m.module == module && m.authname == authname

/-- The account that a request for a new one makes. -/
def NewAccount.row (n : NewAccount) (uid : Int) (excluded : Bool) (now : Instant) : Account :=
  ⟨uid, n.name, n.mail, n.passHash, .active, excluded, n.roles, now, none⟩

/-- Adds an account under the next uid. The new uid is the greatest of all. -/
def insertAccount (s : Store) (n : NewAccount) (excluded : Bool) (now : Instant) :
    Except StoreError (Account × Store) :=
  if s.nameTaken n.name then .error (.nameTaken n.name)
  else
    let uid := s.lastUid + 1
    let a := NewAccount.row n uid excluded now
    .ok (a, { s with accounts := s.accounts ++ [a], lastUid := uid })

/-- Adds a link under the next id. -/
def insertAuthmap (s : Store) (uid : Int) (module authname : String) :
    Except StoreError (Authmap × Store) :=
  if s.authnameTaken module authname then .error (.authnameTaken authname)
  else if s.accounts.all (·.uid != uid) then .error (.unknownAccount uid)
  else
    let m := ⟨s.lastAid + 1, uid, module, authname⟩
    .ok (m, { s with authmaps := s.authmaps ++ [m], lastAid := s.lastAid + 1 })

/-- Makes an account. -/
def createAccount (s : Store) (n : NewAccount) (now : Instant) : Answer Account :=
  match s.insertAccount n n.ldapExcluded now with
  | .error e => (.error e, s)
  | .ok (a, s) => (readAccount a, s)

/-- Makes the site owner's account unless there is one. It is never excluded from the directory
by its flag: its uid does that. -/
def ensureSiteOwner (s : Store) (n : NewAccount) (now : Instant) : Answer Account :=
  match s.account siteOwnerUid with
  | .error e => (.error e, s)
  | .ok (some owner) => (.ok owner, s)
  | .ok none =>
    if s.nameTaken n.name then (.error (.nameTaken n.name), s)
    else
      let a := NewAccount.row n siteOwnerUid false now
      (readAccount a, { s with accounts := a :: s.accounts })

/-- Links an account to an outside identity. -/
def createAuthmap (s : Store) (uid : Int) (module authname : String) : Answer Authmap :=
  match s.insertAuthmap uid module authname with
  | .error e => (.error e, s)
  | .ok (m, s) => (.ok m, s)

/-- Makes an account and links it, or does neither. -/
def provisionAccount (s : Store) (n : NewAccount) (module authname : String) (now : Instant) :
    Answer Account :=
  match s.insertAccount n false now with
  | .error e => (.error e, s)
  | .ok (a, withAccount) =>
    match withAccount.insertAuthmap a.uid module authname with
    | .error e => (.error e, s)
    | .ok (_, linked) => (readAccount a, linked)

/-- Changes the account with a uid, if there is one. -/
def modify (s : Store) (uid : Int) (change : Account → Account) : Store :=
  { s with accounts := s.accounts.map fun a => if a.uid == uid then change a else a }

def updateMail (s : Store) (uid : Int) (mail : Option String) : Store :=
  s.modify uid fun a => { a with mail }

def updateRoles (s : Store) (uid : Int) (roles : List String) : Store :=
  s.modify uid fun a => { a with roles }

def setStatus (s : Store) (uid : Int) (status : Account.Status) : Store :=
  s.modify uid fun a => { a with status }

def setLdapExcluded (s : Store) (uid : Int) (ldapExcluded : Bool) : Store :=
  s.modify uid fun a => { a with ldapExcluded }

def touchLogin (s : Store) (uid : Int) (at_ : Instant) : Store :=
  s.modify uid fun a => { a with lastLogin := some at_ }

/-- Saves a text under a name, in place of the one before. -/
def saveSettings (s : Store) (name text : String) : Store :=
  { s with settings := (name, text) :: s.settings.filter (·.1 != name) }

end Store

end DirectoryLogin
