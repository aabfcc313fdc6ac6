import DirectoryLogin.Text.LowerCase
import DirectoryLogin.Text.Search

/-!
# Media types

`isJson` tells from the value of a content type whether a body is JSON: `application/json`, or an
application type with the suffix `json`. A value that is no media type is refused, down to its
parameters, which take no white space but spaces in front of a name and after a quoted value.
-/

namespace DirectoryLogin.Http.MediaType

/-- Characters of types, names and plain values. -/
def isTokenChar (c : Char) : Bool := c.isAlphanum || "!#$%&'+-.^_|~".toList.contains c

/-- Characters between quotes. -/
def isQuotedChar (c : Char) : Bool := 0x20 ≤ c.toNat && c.toNat ≤ 0x7E

/-- What follows a quoted value, the quote at its end included. The flag tells that the character
before was a backslash, and the next one stands for itself. -/
def afterQuote? (escaped : Bool) : List Char → Option (List Char)
  | [] => none
  | c :: rest =>
    if !isQuotedChar c then none
    else if escaped then afterQuote? false rest
    else if c == '\x22' then some rest
    else afterQuote? (c == '\\') rest

/-- What follows the value of a parameter, up to the next semicolon. -/
def afterValue? : List Char → Option (List Char)
  | '\x22' :: rest => do
    let rest ← afterQuote? false rest
    let rest := rest.dropWhile (· == ' ')
    if rest.isEmpty || rest.head? == some ';' then some rest else none
  | cs =>
    let (value, rest) := cs.span isTokenChar
    if rest.isEmpty || (rest.head? == some ';' && !value.isEmpty) then some rest else none

/-- The parameters that follow a semicolon are well formed. `fuel` bounds their number. -/
def areParams : (fuel : Nat) → List Char → Bool
  | 0, _ => false
  | fuel + 1, cs =>
    match cs.dropWhile (· == ' ') with
    | [] => true
    | cs =>
      let (name, rest) := cs.span isTokenChar
      match rest with
      | '=' :: rest =>
        match afterValue? rest with
        | some (';' :: rest) => !name.isEmpty && areParams fuel rest
        | some _ => !name.isEmpty
        | none => false
      | _ => false

/-- The part of a subtype before its last plus sign, and the suffix after it. -/
def splitSuffix (subtype : List Char) : List Char × Option (List Char) :=
  match Text.cutLast? '+' subtype with
  | some (start, suffix) => if start.isEmpty then (subtype, none) else (start, some suffix)
  | none => (subtype, none)

/-- The content type of a JSON body. -/
def isJson (s : String) : Bool :=
  let (kind, rest) := (Text.lowerAscii s).toList.span isTokenChar
  match rest with
  | '/' :: rest =>
    let (subtype, rest) := rest.span isTokenChar
    let wellFormed := match rest with
      | [] => true
      | ';' :: params => areParams (params.length + 1) params
      | _ => false
    let (main, suffix) := splitSuffix subtype
    let json := "json".toList
    wellFormed && kind == "application".toList && (main == json || suffix == some json)
  | _ => false

end DirectoryLogin.Http.MediaType
