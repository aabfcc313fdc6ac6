import DirectoryLogin.Digest.Argon2
import DirectoryLogin.Text.Search

/-!
# Stored passwords

The text under which a local password is stored: fields set apart by `$`, which name the
algorithm, its version and its parameters and end with the salt and the tag in base 64. All fields
but the algorithm may be absent.

* `PasswordHash.read?` reads the text and `PasswordHash.text` writes it;
* `PasswordHash.accepts` holds of the passwords that give the stored tag. A hash of an algorithm
  that is not Argon2, one without salt or tag and one with unusable parameters accepts nothing;
* `PasswordHash.ofPassword` makes the hash of a new password.
-/

namespace DirectoryLogin

open Digest (Bytes)

structure PasswordHash where
  algorithm : String
  version : Option Nat
  /-- The parameters by name; of one that is repeated the last value counts. -/
  params : List (String × String)
  /-- The salt in base 64. -/
  salt : Option String
  tag : Option Bytes
  deriving DecidableEq, Repr

namespace PasswordHash

/-! ## Text -/

/-- Names of algorithms and parameters have 1 to 32 small letters, digits and hyphens. -/
def isName (s : String) : Bool :=
  1 ≤ s.length && s.length ≤ 32 && s.toList.all fun c => c.isLower || c.isDigit || c == '-'

/-- Characters of values. -/
def isValueChar (c : Char) : Bool :=
  c.isAlphanum || c == '/' || c == '+' || c == '.' || c == '-'

/-- Values of parameters have at most 64 characters. -/
def isValue (s : String) : Bool := s.length ≤ 64 && s.toList.all isValueChar

/-- Salts have 4 to 64 characters. -/
def isSalt (s : String) : Bool := 4 ≤ s.length && isValue s

/-- A natural number of 32 bits in digits without zeros in front. -/
def decimal? (s : String) : Option Nat :=
  let digits := s.toList
  if digits.isEmpty || !digits.all Char.isDigit || (digits.head? == some '0' && digits.length != 1) then
    none
  else
    let n := digits.foldl (fun n c => n * 10 + (c.toNat - 0x30)) 0
    if n < 1 <<< 32 then some n else none

/-- A name and a value with an equals sign between them. -/
def param? (s : String) : Option (String × String) :=
  match Text.splitOn '=' s with
  | [name, value] => if isName name && isValue value then some (name, value) else none
  | _ => none

/-- Parameters with commas between them, in at most 127 bytes. -/
def params? (s : String) : Option (List (String × String)) :=
  if s.utf8ByteSize ≤ 127 then (Text.splitOn ',' s).mapM param? else none

/-- A tag in base 64, of 10 to 64 bytes. -/
def tag? (s : String) : Option Bytes :=
  (Digest.ofBase64? s).filter fun bytes => 10 ≤ bytes.length && bytes.length ≤ 64

/-- Takes the version off the fields, if the first one is a version. -/
def takeVersion? : List String → Option (Option Nat × List String)
  | [] => some (none, [])
  | field :: rest =>
    match Text.dropStart? field "v=" with
    | some value => if field.toList.contains ',' then some (none, field :: rest)
      else (decimal? value).map fun n => (some n, rest)
    | none => some (none, field :: rest)

/-- Takes the parameters off the fields, if the first one holds parameters. -/
def takeParams? : List String → Option (List (String × String) × List String)
  | [] => some ([], [])
  | field :: rest =>
    if field.toList.contains '=' then (params? field).map fun ps => (ps, rest)
    else some ([], field :: rest)

/-- The salt and the tag, which are all that may be left. -/
def saltAndTag? : List String → Option (Option String × Option Bytes)
  | [] => some (none, none)
  | [salt] => if isSalt salt then some (some salt, none) else none
  | [salt, tag] => if isSalt salt then (tag? tag).map fun bytes => (some salt, some bytes) else none
  | _ => none

/-- Reads a stored hash. -/
def read? (s : String) : Option PasswordHash :=
  match Text.splitOn '$' s with
  | "" :: algorithm :: fields => do
    if !isName algorithm then none
    let (version, fields) ← takeVersion? fields
    let (params, fields) ← takeParams? fields
    let (salt, tag) ← saltAndTag? fields
    some ⟨algorithm, version, params, salt, tag⟩
  | _ => none

/-- Writes a hash. -/
def text (h : PasswordHash) : String :=
  let params := h.params.map fun (name, value) => name ++ "=" ++ value
  let fields := ["", h.algorithm] ++ h.version.toList.map (fun n => "v=" ++ toString n) ++
    (if params.isEmpty then [] else [String.intercalate "," params]) ++
    h.salt.toList ++ h.tag.toList.map Digest.base64
  String.intercalate "$" fields

/-! ## Argon2 -/

open Digest.Argon2 (Variant Version Params)

def variant? : String → Option Variant
  | "argon2d" => some .dependent
  | "argon2i" => some .independent
  | "argon2id" => some .hybrid
  | _ => none

/-- The version that a number names; without one it is the newer. -/
def version? : Option Nat → Option Version
  | none => some .adding
  | some 19 => some .adding
  | some 16 => some .replacing
  | some _ => none

/-- Bytes in base 64, with an upper bound on their number. -/
def bytesUpTo? (bound : Nat) (s : String) : Option Bytes :=
  (Digest.ofBase64? s).filter (·.length ≤ bound)

/-- Sets a parameter. The id of a key is checked and has no effect. -/
def setParam? (p : Params) : String × String → Option Params
  | ("m", value) => (decimal? value).map fun n => { p with memory := n }
  | ("t", value) => (decimal? value).map fun n => { p with passes := n }
  | ("p", value) => (decimal? value).map fun n => { p with lanes := n }
  | ("keyid", value) => (bytesUpTo? 8 value).map fun _ => p
  | ("data", value) => (bytesUpTo? 32 value).map fun bytes => { p with associated := bytes }
  | _ => none

/-- The parameters that new hashes are made with. -/
def defaultParams : Params where
  variant := .hybrid
  version := .adding
  memory := 19456
  passes := 2
  lanes := 1
  associated := []
  tagLength := 32

/-- Parameters that Argon2 can work with. -/
def isUsable (p : Params) : Bool :=
  1 ≤ p.lanes && p.lanes ≤ 0xFFFFFF && 8 * p.lanes ≤ p.memory && 1 ≤ p.passes

/-- The parameters of a hash with a tag of some length. -/
def argonParams? (h : PasswordHash) (tagLength : Nat) : Option Params := do
  let variant ← variant? h.algorithm
  let version ← version? h.version
  let p ← h.params.foldlM setParam? { defaultParams with variant, version, tagLength }
  if isUsable p then some p else none

/-- The tag that a password gives under the salt and the parameters of a hash. -/
def tagOf? (h : PasswordHash) (tagLength : Nat) (password : String) : Option Bytes := do
  let salt ← h.salt.bind Digest.ofBase64?
  if salt.length < 8 then none
  let p ← h.argonParams? tagLength
  some (Digest.Argon2.tag p (Digest.utf8 password) salt)

/-- The password gives the stored tag. -/
def accepts (h : PasswordHash) (password : String) : Bool :=
  match h.tag with
  | some tag => h.tagOf? tag.length password == some tag
  | none => false

/-- The hash of a new password under a salt. -/
def ofPassword (password : String) (salt : Bytes) : PasswordHash where
  algorithm := "argon2id"
  version := some defaultParams.version.code
  params := [("m", toString defaultParams.memory), ("t", toString defaultParams.passes),
    ("p", toString defaultParams.lanes)]
  salt := some (Digest.base64 salt)
  tag := some (Digest.Argon2.tag defaultParams (Digest.utf8 password) salt)

end PasswordHash

/-- A stored hash can be read and accepts the password. -/
def passwordAccepted (hash password : String) : Bool :=
  match PasswordHash.read? hash with
  | some h => h.accepts password
  | none => false

end DirectoryLogin
