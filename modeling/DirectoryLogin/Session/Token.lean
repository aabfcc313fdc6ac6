import DirectoryLogin.Digest.Sha256
import DirectoryLogin.Text.Search

/-!
# Signed session ids

A cookie carries a session id and, after a full stop, its authentication code under the site's
secret in hexadecimal. `verify?` takes the last full stop for the separator and digits of either
case, so ids may be any text.
-/

namespace DirectoryLogin.SessionToken

open Digest (Bytes)

/-- The code of an id under a secret. -/
def code (secret : Bytes) (id : String) : Bytes := Digest.hmac secret (Digest.utf8 id)

/-- The value of a cookie. -/
def sign (secret : Bytes) (id : String) : String := id ++ "." ++ Digest.hex (code secret id)

/-- The id in the value of a cookie, if the code belongs to it. -/
def verify? (secret : Bytes) (value : String) : Option String := do
  let (id, signature) ← Text.splitLast? '.' value
  let bytes ← Digest.ofHex? signature
  if bytes = code secret id then some id else none

/-- The id made from random bytes. -/
def idOfBytes (random : Bytes) : String := Digest.hex random

end DirectoryLogin.SessionToken
