import DirectoryLogin.Text.Blank
import DirectoryLogin.Text.Search

/-!
# Environment files

A file of variables that complete the environment, one assignment to a line:

    # a comment
    export NAME = value  # a comment after white space
    GREETING="hello, ${NAME}"

A value can be quoted. In double quotes, and outside quotes, a backslash escapes the next character
and a dollar sign stands for the value of a variable; in single quotes every character stands for
itself. White space outside quotes ends a value, and only a comment may follow. A quoted value can
go on over several lines.

The file is read up to its first fault. A variable that the environment has already keeps its
value.
-/

namespace DirectoryLogin.Settings.EnvironmentFile

/-- Variables with their values, the latest first. -/
abbrev Variables := List (String × String)

/-! ## Lines -/

/-- Where in an assignment a line ends. -/
inductive Place where
  | plain
  /-- After white space. -/
  | gap
  | escape
  | single
  | singleEscape
  | double
  | doubleEscape
  /-- In a comment after white space. -/
  | comment
  deriving DecidableEq, Repr

/-- The place after a character that begins or continues a value outside quotes. -/
def Place.outside (c : Char) : Place :=
  if c == '\\' then .escape
  else if c == '\x22' then .double
  else if c == '\x27' then .single
  else .plain

/-- The place after a character. -/
def Place.next : Place → Char → Place
  | plain, c => if Text.isBlank c && c != '\n' && c != '\r' then .gap else outside c
  | gap, c => if c == '#' then .comment else outside c
  | escape, _ => .plain
  | single, c => if c == '\\' then .singleEscape else if c == '\x27' then .plain else .single
  | singleEscape, _ => .single
  | double, c => if c == '\\' then .doubleEscape else if c == '\x22' then .plain else .double
  | doubleEscape, _ => .double
  | comment, _ => .comment

/-- What a line holds before a comment in it, and the place where it ends. -/
def scanLine (at_ : Place) : List Char → List Char × Place
  | [] => ([], at_)
  | c :: rest =>
    match at_.next c with
    | .comment => ([], .comment)
    | place =>
      let (kept, final) := scanLine place rest
      (c :: kept, final)

/-- The lines of a text, each with the line feed that ends it. -/
def lines : List Char → List (List Char)
  | [] => []
  | c :: rest =>
    if c == '\n' then [c] :: lines rest
    else match lines rest with
      | [] => [[c]]
      | l :: ls => (c :: l) :: ls

/-- The text begins with a comment. -/
def isComment (cs : List Char) : Bool := (cs.dropWhile Text.isBlank).head? == some '#'

/-- The assignments of a text, up to its first fault. `open_` is the beginning of an assignment
that goes on. -/
def assignments (open_ : List Char) (at_ : Place) : List (List Char) → List (List Char)
  | [] => []
  | l :: ls =>
    if isComment (open_ ++ l) then assignments [] .plain ls
    else match scanLine at_ l with
      | (kept, .plain) => (open_ ++ kept) :: assignments [] .plain ls
      | (kept, .comment) => (open_ ++ kept) :: assignments [] .plain ls
      | (kept, place) => assignments (open_ ++ kept) place ls

/-! ## Values -/

/-- Where in a value a character stands. -/
inductive Mode where
  | bare
  | escaped
  | single
  | double
  | doubleEscaped
  /-- In the name of a variable, read so far in reverse, inside double quotes or not. -/
  | name (read : List Char) (quoted : Bool)
  /-- In the name of a variable in braces. -/
  | braced (read : List Char) (quoted : Bool)
  /-- After the value. -/
  | ended
  deriving DecidableEq, Repr

/-- What a backslash and a character stand for. -/
def escape? (c : Char) : Option Char :=
  if c == 'n' then some '\n'
  else if c == '\\' || c == '\x27' || c == '\x22' || c == '$' || c == ' ' then some c
  else none

/-- The mode outside the names of variables. -/
def Mode.ofQuoted (quoted : Bool) : Mode := if quoted then .double else .bare

/-- The letters and digits of a variable's name. -/
def isNameChar (c : Char) : Bool := c.isAlphanum || 0x80 ≤ c.toNat

/-- Reads a value. `valueOf` gives the values of the variables in it. -/
def readValue (valueOf : List Char → List Char) : Mode → List Char → Option (List Char)
  | .bare, [] => some []
  | .escaped, [] => some []
  | .ended, [] => some []
  | .name read quoted, [] => if quoted then none else some (valueOf read.reverse)
  | _, [] => none
  | .ended, c :: rest =>
    if c == ' ' || c == '\t' then readValue valueOf .ended rest
    else if c == '#' then some []
    else none
  | .escaped, c :: rest => do
    let e ← escape? c
    let more ← readValue valueOf .bare rest
    some (e :: more)
  | .doubleEscaped, c :: rest => do
    let e ← escape? c
    let more ← readValue valueOf .double rest
    some (e :: more)
  | .single, c :: rest =>
    if c == '\x27' then readValue valueOf .bare rest
    else (readValue valueOf .single rest).map (c :: ·)
  | .name read quoted, c :: rest =>
    if isNameChar c then readValue valueOf (.name (c :: read) quoted) rest
    else if c == '\x7b' && read.isEmpty then readValue valueOf (.braced [] quoted) rest
    else if c == '$' then
      (readValue valueOf (.name [] quoted) rest).map (valueOf read.reverse ++ ·)
    else
      (readValue valueOf (.ofQuoted quoted) rest).map fun more =>
        valueOf read.reverse ++ c :: more
  | .braced read quoted, c :: rest =>
    if c == '\x7d' then
      (readValue valueOf (.ofQuoted quoted) rest).map (valueOf read.reverse ++ ·)
    else readValue valueOf (.braced (c :: read) quoted) rest
  | .double, c :: rest =>
    if c == '$' then readValue valueOf (.name [] true) rest
    else if c == '\x22' then readValue valueOf .bare rest
    else if c == '\\' then readValue valueOf .doubleEscaped rest
    else (readValue valueOf .double rest).map (c :: ·)
  | .bare, c :: rest =>
    if c == '$' then readValue valueOf (.name [] false) rest
    else if c == '\x27' then readValue valueOf .single rest
    else if c == '\x22' then readValue valueOf .double rest
    else if c == '\\' then readValue valueOf .escaped rest
    else if c == ' ' || c == '\t' then readValue valueOf .ended rest
    else (readValue valueOf .bare rest).map (c :: ·)

/-! ## Assignments -/

/-- Splits off the name at the beginning of a text. -/
def takeName? (cs : List Char) : Option (String × List Char) :=
  match cs with
  | c :: _ =>
    if c.isAlpha || c == '_' then
      let isPart (c : Char) : Bool := c.isAlphanum || c == '_' || c == '.'
      some (String.ofList (cs.takeWhile isPart), (cs.dropWhile isPart).dropWhile Text.isBlank)
    else none
  | [] => none

/-- The text after an equals sign and the white space behind it. -/
def afterEquals? : List Char → Option (List Char)
  | '=' :: rest => some (rest.dropWhile Text.isBlank)
  | _ => none

/-- Splits an assignment into its name and the text of its value. The word `export` can stand in
front, and is a name of its own before an equals sign. -/
def split? (cs : List Char) : Option (String × List Char) := do
  let (name, rest) ← takeName? cs
  match afterEquals? rest with
  | some value => some (name, value)
  | none =>
    if name == "export" then do
      let (name, rest) ← takeName? rest
      some (name, ← afterEquals? rest)
    else none

/-- The first value that a name is given. -/
def Variables.first? (vars : Variables) (name : String) : Option String :=
  (vars.reverse.find? (·.1 == name)).map (·.2)

/-- Reads an assignment. A variable in it has its value from the environment, else from the
assignments before, else it is empty. -/
def readAssignment? (env : String → Option String) (vars : Variables) (cs : List Char) :
    Option (String × String) := do
  let valueOf (name : List Char) : List Char :=
    let name := String.ofList name
    ((env name <|> vars.first? name).getD "").toList
  let (name, text) ← split? cs
  if isComment text then some (name, "")
  else some (name, String.ofList (← readValue valueOf .bare text))

/-- The variables of the assignments, up to the first fault, put in front of those before. -/
def readAssignments (env : String → Option String) (vars : Variables) :
    List (List Char) → Variables
  | [] => vars
  | cs :: more =>
    let cs := Text.stripBoth Text.isBlank cs
    if cs.isEmpty || isComment cs then readAssignments env vars more
    else match readAssignment? env vars cs with
      | some v => readAssignments env (v :: vars) more
      | none => vars

/-- The variables that a file assigns. -/
def read (env : String → Option String) (text : String) : Variables :=
  let cs := match text.toList with
    | '\uFEFF' :: rest => rest
    | cs => cs
  readAssignments env [] (assignments [] .plain (lines cs))

/-- The environment completed by a file. Of two assignments of one name the earlier holds. -/
def complete (env : String → Option String) (text : String) : String → Option String :=
  let vars := read env text
  fun name => env name <|> vars.first? name

end DirectoryLogin.Settings.EnvironmentFile
