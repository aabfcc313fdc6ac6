import DirectoryLogin.Predicate.Error
import DirectoryLogin.Text.Blank

/-!
# Tokens of the predicate language

`tokenize` cuts a source text into tokens, each with the byte offset of its first character.
Between tokens any white space is skipped. A word is a longest run of ASCII letters, digits, `_`
and `-`. A literal stands between two equal quotes, single or double, and inside it a backslash
stands for the character that follows.

The scan reads one character at a time. `firstToken` looks ahead from a character to the end of
the token that starts there and says how many more characters belong to it; the scan then passes
over these.
-/

namespace DirectoryLogin.Predicate

inductive Token where
  | leftParen
  | rightParen
  | and
  | or
  | not
  | equal
  | unequal
  | word (name : String)
  | literal (value : String)
  deriving DecidableEq, Repr

/-- A token and the byte offset at which it starts. -/
structure Placed where
  token : Token
  position : Nat
  deriving DecidableEq, Repr

/-- Characters of a word. -/
def isWordChar (c : Char) : Bool := c.isAlphanum || c == '_' || c == '-'

/-- The quotes that open and close a literal. -/
def isQuote (c : Char) : Bool := c == '\x22' || c == '\x27'

/-- The contents of a literal after its opening quote, with the number of characters up to and
including the closing one. `none` if the literal does not end. -/
def literalBody? (quote : Char) : List Char → Option (List Char × Nat)
  | [] => none
  | '\\' :: c :: rest => (literalBody? quote rest).map fun (body, n) => (c :: body, n + 2)
  | c :: rest =>
    if c == quote then some ([], 1)
    else if c == '\\' then none
    else (literalBody? quote rest).map fun (body, n) => (c :: body, n + 1)

/-- The token of two equal characters that starts with `c`. -/
def pairToken? (c : Char) : Option Token :=
  if c == '&' then some .and
  else if c == '|' then some .or
  else if c == '=' then some .equal
  else none

/-- The token that starts at `c`, a character that is not white space, and the number of
characters after `c` that belong to it. -/
def firstToken (c : Char) (rest : List Char) : Except Fault (Token × Nat) :=
  if c == '(' then .ok (.leftParen, 0)
  else if c == ')' then .ok (.rightParen, 0)
  else if c == '!' then
    if rest.head? == some '=' then .ok (.unequal, 1) else .ok (.not, 0)
  else if isQuote c then
    match literalBody? c rest with
    | some (body, n) => .ok (.literal (String.ofList body), n)
    | none => .error .unterminatedLiteral
  else if isWordChar c then
    let more := rest.takeWhile isWordChar
    .ok (.word (String.ofList (c :: more)), more.length)
  else match pairToken? c with
    | some token => if rest.head? == some c then .ok (token, 1) else .error (.single c)
    | none => .error (.unexpectedCharacter c)

/-- Scans the characters from byte offset `position` on, the first `skip` of which belong to the
token before. -/
def scan (skip position : Nat) : List Char → Except PredicateError (List Placed)
  | [] => .ok []
  | c :: rest =>
    match skip with
    | k + 1 => scan k (position + c.utf8Size) rest
    | 0 =>
      if Text.isBlank c then scan 0 (position + c.utf8Size) rest
      else match firstToken c rest with
        | .error fault => .error ⟨fault, position⟩
        | .ok (token, more) => (scan more (position + c.utf8Size) rest).map (⟨token, position⟩ :: ·)

/-- The tokens of a source text. -/
def tokenize (source : String) : Except PredicateError (List Placed) := scan 0 0 source.toList

end DirectoryLogin.Predicate
