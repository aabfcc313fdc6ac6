import DirectoryLogin.Account.Basic
import DirectoryLogin.Failure.Basic

/-!
# Responses

A response has a status, a body and the headers that matter to a client. All bodies but the
metrics and the refusals of malformed requests are JSON.
-/

namespace DirectoryLogin.Http

inductive Body where
  | empty
  | json (value : Json)
  | text (contentType content : String)
  deriving Repr

structure Response where
  status : Nat
  body : Body
  /-- The demand for credentials. -/
  challenge : Option String
  /-- The texts that set cookies, in order. -/
  setCookies : List String
  /-- The content type, also where the body is left out. -/
  contentType : Option String
  deriving Repr

namespace Response

/-- A response without a body. -/
def ofStatus (status : Nat) : Response := ⟨status, .empty, none, [], none⟩

/-- A JSON response. -/
def json (status : Nat) (value : Json) : Response :=
  ⟨status, .json value, none, [], some "application/json"⟩

/-- A text response. -/
def text (status : Nat) (contentType content : String) : Response :=
  ⟨status, .text contentType content, none, [], some contentType⟩

/-- A response that words a refusal in plain text. -/
def plain (status : Nat) (content : String) : Response :=
  text status "text/plain; charset=utf-8" content

/-- The refusal of a body that is too long. -/
def tooLong : Response := plain 413 "The body is too long"

/-- The demand for the site owner's credentials. -/
def unauthorized : Response :=
  { ofStatus 401 with challenge := some "Basic realm=\x22ldapgate\x22" }

/-- A successful response with its data. -/
def success (data : Json) : Response :=
  json 200 (.object [("success", .bool true), ("data", data)])

/-- A response that reports an error. -/
def error (status : Nat) (message : String) : Response :=
  json status (.object [("success", .bool false), ("error", .string message)])

/-- A response that reports a failed login. -/
def loginError (status : Nat) (message code : String) : Response :=
  json status (.object [("success", .bool false), ("error", .string message), ("code", .string code)])

/-- The response with one more cookie. -/
def addCookie (r : Response) (cookie : String) : Response :=
  { r with setCookies := r.setCookies ++ [cookie] }

/-- The response without its body. -/
def headersOnly (r : Response) : Response := { r with body := .empty }

end Response

end DirectoryLogin.Http
