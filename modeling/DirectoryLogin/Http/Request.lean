import DirectoryLogin.Digest.Bytes
import DirectoryLogin.Http.Target
import DirectoryLogin.Login.Visit

/-!
# Requests

A request has a method, a target, headers and a body. Header names are kept in lower case. A
header value counts only if it can be read as text, which takes visible ASCII characters, spaces
and tabs.

* `visit` is what single sign-on gets to know: each header with a readable value is a variable;
* `basicCredentials` are the name and the password of the `Basic` scheme.
-/

namespace DirectoryLogin.Http

structure Request where
  method : String
  target : Target
  /-- The headers in order, names in lower case. -/
  headers : List (String × String)
  body : String
  deriving DecidableEq, Repr

namespace Request

/-- A request with header names in any case. -/
def ofParts (method : String) (target : Target) (headers : List (String × String)) (body : String) :
    Request :=
  ⟨method, target, headers.map fun (name, value) => (Text.lowerAscii name, value), body⟩

def path (r : Request) : String := r.target.path

/-- A request that only wants to look. -/
def isRead (r : Request) : Bool := r.method == "GET" || r.method == "HEAD"

/-- The most bytes that a body may have. -/
def maxBodyBytes : Nat := 2 * 1024 * 1024

/-- The body has more bytes than it may have. -/
def isTooLong (r : Request) : Bool := r.body.utf8ByteSize > maxBodyBytes

/-! ## Headers -/

/-- The value can be read as text. -/
def isReadable (value : String) : Bool :=
  value.toList.all fun c => c == '\t' || (0x20 ≤ c.toNat && c.toNat ≤ 0x7E)

/-- The values of a header that can be read, in order. -/
def readable (r : Request) (name : String) : List String :=
  (r.headers.filter fun h => h.1 == name && isReadable h.2).map (·.2)

/-- The first value of a header, if it can be read. -/
def header? (r : Request) (name : String) : Option String :=
  ((r.headers.find? (·.1 == name)).map (·.2)).filter isReadable

/-! ## Visits -/

/-- Sets a variable, in place of one of the same name. -/
def setVariable (vars : List (String × String)) (name value : String) :
    List (String × String) :=
  vars.filter (·.1 != name) ++ [(name, value)]

/-- The headers that can be read; of a repeated one the last value counts. -/
def vars (r : Request) : List (String × String) :=
  (r.headers.filter fun h => isReadable h.2).foldl (fun vs h => setVariable vs h.1 h.2) []

/-- A host without a decimal port. -/
def dropPort (host : String) : String :=
  match Text.splitLast? ':' host with
  | some (name, port) => if port.toList.all Char.isDigit then name else host
  | none => host

/-- The host that a request names, in its header or else in its target. -/
def host (r : Request) : String := dropPort ((r.header? "host" <|> r.target.host).getD "")

/-- What single sign-on gets to know of a request. -/
def visit (r : Request) : Visit := ⟨r.vars, r.path, r.host⟩

/-! ## Credentials -/

/-- The name and the password of a header value in the `Basic` scheme. -/
def decodeBasic? (value : String) : Option (String × String) := do
  let encoded ← Text.dropStart? value "Basic "
  let bytes ← Digest.ofPaddedBase64? (Text.trim encoded)
  let text ← Digest.ofUtf8? bytes
  Text.splitFirst? ':' text

/-- The name and the password that come with a request. -/
def basicCredentials (r : Request) : Option (String × String) :=
  (r.header? "authorization").bind decodeBasic?

end Request

end DirectoryLogin.Http
