import DirectoryLogin.Directory.Registry
import DirectoryLogin.Failure.Basic
import DirectoryLogin.Login.Identity

/-!
# Finding the identity behind a name

The candidate servers are asked in order, and the first entry that is found, and whose password
is right where one was given, settles the matter. A server that fails is passed over. If none
settles it, a wrong password outranks a failing server, and that outranks an unknown name, so the
kind of failure does not depend on the order of the servers. An ambiguous name counts as unknown.

A resolution tells its result and the questions that it put to the servers, in their order.
-/

namespace DirectoryLogin

open Directory (Question)

/-- What the servers asked so far have said against the name. -/
structure Setbacks where
  wrongPassword : Bool
  /-- The first server that failed. -/
  failed : Option (String × DirectoryError)
  deriving DecidableEq, Repr

namespace Setbacks

def none : Setbacks := ⟨false, .none⟩

def rejectPassword (s : Setbacks) : Setbacks := { s with wrongPassword := true }

/-- Notes a failing server, unless one failed before. -/
def fail (s : Setbacks) (sid : String) (e : DirectoryError) : Setbacks :=
  { s with failed := s.failed <|> some (sid, e) }

/-- The failure of a resolution in which no server settled the matter. -/
def toFailure (s : Setbacks) : Failure :=
  if s.wrongPassword then .invalidCredentials
  else match s.failed with
    | some (sid, e) => .server sid e
    | .none => .notFound

end Setbacks

/-- The result of a resolution and the questions that it took. -/
structure Resolution where
  result : Except Failure Identity
  questions : List Question

namespace Resolution

/-- What one server makes of a name: it settles the matter, or there is a setback. -/
inductive Verdict where
  | settled (i : Identity)
  | passed (s : Setbacks)

/-- Asks one server. -/
def askServer (d : Directory) (username : String) (password : Option String) (s : Setbacks) :
    Verdict × List Question :=
  let lookup := Question.findEntry d.sid username password
  match d.findEntry username password with
  | .ok none => (.passed s, [lookup])
  | .error .invalidCredentials => (.passed s.rejectPassword, [lookup])
  | .error (.ambiguous _) => (.passed s, [lookup])
  | .error e => (.passed (s.fail d.sid e), [lookup])
  | .ok (some e) =>
    match password with
    | none => (.settled ⟨e, username, d.definition⟩, [lookup])
    | some p =>
      let questions := [lookup, .verifyPassword d.sid e.dn]
      match d.verifyPassword e p with
      | .ok true => (.settled ⟨e, username, d.definition⟩, questions)
      | .ok false => (.passed s.rejectPassword, questions)
      | .error error => (.passed (s.fail d.sid error), questions)

/-- Asks the servers in order. -/
def walk (username : String) (password : Option String) (s : Setbacks) : List Directory → Resolution
  | [] => ⟨.error s.toFailure, []⟩
  | d :: rest =>
    match askServer d username password s with
    | (.settled i, questions) => ⟨.ok i, questions⟩
    | (.passed s, questions) =>
      let later := walk username password s rest
      ⟨later.result, questions ++ later.questions⟩

/-- Asks the candidates for a name that is not blank. -/
def ofName (r : Registry) (c : Settings.Authentication) (username : String)
    (password : Option String) : Resolution :=
  match r.candidates c with
  | [] => ⟨.error (.misconfigured .noCandidate), []⟩
  | candidates => walk username password .none candidates

/-- Finds the identity of a user name and a password. -/
def ofCredentials (r : Registry) (c : Settings.Authentication) (username password : String) :
    Resolution :=
  let username := Text.trim username
  if username.isEmpty || password.isEmpty then ⟨.error .invalidCredentials, []⟩
  else ofName r c username (some password)

/-- Finds the identity of a name that the front end asserted. -/
def ofAsserted (r : Registry) (c : Settings.Authentication) (username : String) : Resolution :=
  let username := Text.trim username
  if username.isEmpty then ⟨.error .notFound, []⟩
  else ofName r c username none

end Resolution

end DirectoryLogin
