import DirectoryLogin.Json.Basic

/-!
# Writing JSON

Values are written without white space and members in their order. In a text only what JSON
demands is escaped: the quote, the backslash and control characters, the last in their short form
where they have one and as four small hexadecimal digits otherwise.
-/

namespace DirectoryLogin.Json

/-- The hexadecimal digit of a number below 16. -/
def hexDigit (n : Nat) : Char :=
  if n < 10 then Char.ofNat (0x30 + n) else Char.ofNat (0x57 + n)

/-- A character as it stands inside a text. -/
def escape (c : Char) : List Char :=
  if c == '\x22' then ['\\', '\x22']
  else if c == '\\' then ['\\', '\\']
  else if c == '\x08' then ['\\', 'b']
  else if c == '\x0c' then ['\\', 'f']
  else if c == '\n' then ['\\', 'n']
  else if c == '\r' then ['\\', 'r']
  else if c == '\t' then ['\\', 't']
  else if c.toNat < 0x20 then ['\\', 'u', '0', '0', hexDigit (c.toNat / 16), hexDigit (c.toNat % 16)]
  else [c]

/-- A text in quotes. -/
def quoted (s : String) : List Char := '\x22' :: s.toList.flatMap escape ++ ['\x22']

mutual

/-- The characters of a value. -/
def chars : Json → List Char
  | null => "null".toList
  | bool true => "true".toList
  | bool false => "false".toList
  | integer n => (toString n).toList
  | decimal text => text.toList
  | string s => quoted s
  | array [] => ['[', ']']
  | array (v :: rest) => '[' :: (chars v ++ elementChars rest)
  | object [] => ['\x7b', '\x7d']
  | object ((name, v) :: rest) => '\x7b' :: (quoted name ++ ':' :: (chars v ++ memberChars rest))
  | unreadable => []
  | torn => []

/-- The elements after the first, with the closing bracket. -/
def elementChars : List Json → List Char
  | [] => [']']
  | v :: rest => ',' :: (chars v ++ elementChars rest)

/-- The members after the first, with the closing brace. -/
def memberChars : List (String × Json) → List Char
  | [] => ['\x7d']
  | (name, v) :: rest => ',' :: (quoted name ++ ':' :: (chars v ++ memberChars rest))

end

/-- The text of a value. -/
def print (v : Json) : String := String.ofList (chars v)

end DirectoryLogin.Json
