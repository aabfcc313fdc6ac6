import DirectoryLogin.Json.Record
import DirectoryLogin.Toml.Scalar
import DirectoryLogin.Toml.Table

/-!
# Reading TOML

A document is read line by line into the same tree as JSON. Arrays and inline tables may run over
several lines and end in a comma.
-/

namespace DirectoryLogin.Toml

/-- TOML: a choice has an empty table or array as payload, and an array may be longer than its
record. -/
def dialect : Json.Dialect where
  isUnit := fun
    | .array [] => true
    | .object [] => true
    | _ => false
  surplus := true

mutual

/-- A value in front. The count, taken from the length of the document, bounds the steps. -/
def value? : Nat → List Char → Option (Json × List Char)
  | 0, _ => none
  | n + 1, cs =>
    match cs with
    | '[' :: rest => do
      let (elements, after) ← elements? n rest
      some (.array elements, after)
    | '\x7b' :: rest => do
      let (members, after) ← members? n [] rest
      some (.object (membersJson members), after)
    | _ => scalar? cs

/-- The elements of an array up to its closing bracket. -/
def elements? : Nat → List Char → Option (List Json × List Char)
  | 0, _ => none
  | n + 1, cs => do
    match ← skipFiller false cs with
    | ']' :: after => some ([], after)
    | rest => do
      let (v, rest) ← value? n rest
      match ← skipFiller false rest with
      | ',' :: more => do
        let (elements, after) ← elements? n more
        some (v :: elements, after)
      | ']' :: after => some ([v], after)
      | _ => none

/-- The members of an inline table up to its closing brace. -/
def members? : Nat → Members → List Char → Option (Members × List Char)
  | 0, _, _ => none
  | n + 1, ms, cs => do
    match ← skipFiller false cs with
    | '\x7d' :: after => some (ms, after)
    | rest => do
      let (key, rest) ← key? n rest
      match rest with
      | '=' :: rest => do
        let (v, rest) ← value? n (rest.dropWhile isTabOrSpace)
        let ms ← ms.assign key v
        match ← skipFiller false rest with
        | ',' :: more => members? n ms more
        | '\x7d' :: after => some (ms, after)
        | _ => none
      | _ => none

end

/-- Reads the lines of a document. `header` is the table that they belong to. -/
def lines? : Nat → (header : List String) → Members → List Char → Option Members
  | 0, _, _, _ => none
  | n + 1, header, ms, cs => do
    match ← skipFiller false cs with
    | [] => some ms
    | '[' :: '[' :: rest => do
      let (key, rest) ← key? n rest
      match rest with
      | ']' :: ']' :: rest => do
        let ms ← ms.openElement key
        lines? n key ms (← restOfLine? rest)
      | _ => none
    | '[' :: rest => do
      let (key, rest) ← key? n rest
      match rest with
      | ']' :: rest => do
        let ms ← ms.openTable key
        lines? n key ms (← restOfLine? rest)
      | _ => none
    | rest => do
      let (key, rest) ← key? n rest
      match rest with
      | '=' :: rest => do
        let (v, rest) ← value? n (rest.dropWhile isTabOrSpace)
        let ms ← ms.assignWithin header key v
        lines? n header ms (← restOfLine? rest)
      | _ => none

/-- The tree of a document. A byte order mark in front is skipped. -/
def parse? (text : String) : Option Json := do
  let cs := match text.toList with
    | '\ufeff' :: rest => rest
    | cs => cs
  let ms ← lines? (2 * cs.length + 2) [] [] cs
  some (.object (membersJson ms))

end DirectoryLogin.Toml
