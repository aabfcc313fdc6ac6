import DirectoryLogin.Text.LowerCase
import DirectoryLogin.Text.Search

/-!
# Request targets

What a request asks for is given as a path with an optional query, as an absolute address, as a
bare authority, or as an asterisk. `Target.parse?` finds the path and the host in each of these
forms. The query and a fragment are checked and dropped.
-/

namespace DirectoryLogin.Http

structure Target where
  /-- The path as it was written; empty for a bare authority. -/
  path : String
  /-- The host of an absolute address or a bare authority, without user and port. -/
  host : Option String
  deriving DecidableEq, Repr

namespace Target

/-- Characters of a path. Characters outside ASCII are let through. -/
def isPathChar (c : Char) : Bool :=
  0x20 < c.toNat && c != '<' && c != '>' && c != '\x60' && c != '#' && c != '?'

/-- Characters of a query. -/
def isQueryChar (c : Char) : Bool :=
  0x20 < c.toNat && c != '\x22' && c != '#' && c != '<' && c != '>'

/-- The path in front of a query and a fragment. -/
def path? (cs : List Char) : Option (List Char) :=
  let (path, rest) := cs.span isPathChar
  match rest with
  | [] => some path
  | '#' :: _ => some path
  | '?' :: query =>
    match query.dropWhile isQueryChar with
    | [] => some path
    | '#' :: _ => some path
    | _ => none
  | _ => none

/-- Characters that an authority may hold, the percent sign aside. -/
def isAuthorityChar (c : Char) : Bool := c.isAlphanum || "!$&'()*+,-.:;=@[]_~".toList.contains c

/-- The part of an authority after its last `@`. -/
def withoutUser (authority : List Char) : List Char :=
  match Text.cutLast? '@' authority with
  | some (_, rest) => rest
  | none => authority

/-- A host and a port: at most one colon outside of brackets, no percent sign outside of them, and
at most one pair of brackets. -/
def isHostPort (cs : List Char) : Bool :=
  let outside := match Text.cutLast? ']' cs with
    | some (_, rest) => rest
    | none => cs
  outside.count ':' ≤ 1 && !outside.contains '%' && cs.count '[' ≤ 1 &&
    cs.count '[' == cs.count ']' && !cs.isEmpty

/-- The host of a host and a port. An address in brackets keeps them. -/
def hostOf (cs : List Char) : List Char :=
  match cs with
  | '[' :: _ => (cs.takeWhile (· != ']')) ++ [']']
  | _ => cs.takeWhile (· != ':')

/-- The host of an authority. -/
def host? (authority : List Char) : Option String :=
  let hostPort := withoutUser authority
  if authority.all (fun c => isAuthorityChar c || c == '%') && isHostPort hostPort then
    some (String.ofList (hostOf hostPort))
  else none

/-- Characters of the scheme of an address. -/
def isSchemeChar (c : Char) : Bool := c.isAlphanum || c == '+' || c == '-' || c == '.'

/-- What follows the scheme of an absolute address. -/
def afterScheme? (cs : List Char) : Option (List Char) :=
  let (scheme, rest) := cs.span isSchemeChar
  match rest with
  | ':' :: '/' :: '/' :: rest => if scheme.length ≤ 64 then some rest else none
  | _ => none

/-- The authority ends in front of a path, a query or a fragment. -/
def endsAuthority (c : Char) : Bool := c == '/' || c == '?' || c == '#'

/-- The most bytes that a target may have. -/
def maxBytes : Nat := 65534

/-- Reads a target. -/
def parse? (s : String) : Option Target :=
  if s.utf8ByteSize > maxBytes then none
  else match s.toList with
  | ['*'] => some ⟨"*", none⟩
  | '/' :: rest => (path? ('/' :: rest)).map fun path => ⟨String.ofList path, none⟩
  | cs =>
    match afterScheme? cs with
    | none => (host? cs).map fun host => ⟨"", some host⟩
    | some rest => do
      let (authority, rest) := rest.span (!endsAuthority ·)
      let host ← host? authority
      let path ← path? rest
      some ⟨if path.isEmpty then "/" else String.ofList path, some host⟩

end Target

end DirectoryLogin.Http
