import DirectoryLogin.Http.Request
import DirectoryLogin.Text.Percent
import DirectoryLogin.Time.Text

/-!
# Cookies

The session cookie as it comes in and goes out. Names and values come in percent-encoded, with
white space around them dropped; of several cookies of one name the last one counts. Going out, the
value is all that ever changes, and it needs no encoding.
-/

namespace DirectoryLogin.Http

open Time (Instant)

/-- The name of the session cookie. -/
def sessionCookieName : String := "ldapgate_session"

namespace Cookie

/-- The name and the value of one cookie. -/
def parse? (s : String) : Option (String × String) := do
  let (name, value) ← Text.splitFirst? '=' s
  let name := Text.trim name
  if name.isEmpty then none
  let name ← Text.percentDecode? name
  let value ← Text.percentDecode? (Text.trim value)
  some (name, value)

/-- The cookies of a request, in order. -/
def all (r : Request) : List (String × String) :=
  ((r.readable "cookie").flatMap (Text.splitOn ';')).filterMap parse?

/-- The value of the session cookie of a request. -/
def session? (r : Request) : Option String :=
  ((all r).reverse.find? (·.1 == sessionCookieName)).map (·.2)

/-- The text that sets the session cookie. -/
def set (value : String) (secure : Bool) : String :=
  let mark := if secure then "Secure; " else ""
  s!"{sessionCookieName}={value}; HttpOnly; SameSite=Lax; {mark}Path=/"

/-- The age at which a removed cookie is said to have expired: a year. -/
def removalAge : Nat := 365 * 86400

/-- The text that removes the session cookie. -/
def removal (now : Instant) : String :=
  s!"{sessionCookieName}=; Path=/; Max-Age=0; Expires={Time.httpDate (now.earlier removalAge)}"

end Cookie

end DirectoryLogin.Http
