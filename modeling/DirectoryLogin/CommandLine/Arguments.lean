import DirectoryLogin.CommandLine.Grammar
import DirectoryLogin.Text.Search

/-!
# Reading the command line

`parse` goes through the arguments from left to right and ends at the first that asks for help, asks
for the version or cannot be understood. A value that stands in an argument of its own is looked at
only when the next option or the end is reached, so a request in between comes first.
-/

namespace DirectoryLogin.CommandLine

/-- Why the arguments name no command to run. -/
inductive Ending where
  | help (page : Page)
  | version
  | misuse
  deriving DecidableEq, Repr

/-- What the arguments of one scope have said so far. -/
structure Progress where
  /-- The settings with their values. -/
  given : List (Setting × String)
  /-- A setting whose value, if it has one yet, is still to be looked at. -/
  pending : Option (Setting × Option String)
  testConnections : Bool
  deriving DecidableEq, Repr

namespace Progress

def start : Progress := ⟨[], none, false⟩

/-- Gives a setting its value, which must be usable and the first. -/
def enter (p : Progress) (s : Setting) (value : String) : Except Ending Progress :=
  if p.given.any (·.1 == s) || !s.takes value then .error .misuse
  else .ok { p with given := p.given ++ [(s, value)], pending := none }

/-- Gives the pending setting its value. -/
def settle (p : Progress) : Except Ending Progress :=
  match p.pending with
  | none => .ok p
  | some (s, some value) => p.enter s value
  | some (_, none) => .error .misuse

/-- Gives a setting the value in its own argument. -/
def attach (p : Progress) (s : Setting) (value : String) : Except Ending Progress := do
  (← p.settle).enter s value

/-- Lets a setting wait for the next argument. -/
def await (p : Progress) (s : Setting) : Except Ending Progress := do
  let p ← p.settle
  .ok { p with pending := some (s, none) }

/-- Sets a switch. -/
def flip (p : Progress) (scope : Scope) (w : Switch) : Except Ending Progress := do
  let p ← p.settle
  match w with
  | .help => .error (.help (.of scope))
  | .version => .error .version
  | .testConnections =>
    if p.testConnections then .error .misuse else .ok { p with testConnections := true }

/-- The setting that the next argument is the value of. -/
def awaited? (p : Progress) : Option Setting :=
  match p.pending with
  | some (s, none) => some s
  | _ => none

end Progress

/-- Reads an option that is spelt out, without its hyphens. -/
def readWord (scope : Scope) (p : Progress) (text : String) : Except Ending Progress :=
  let (word, value) := match Text.splitFirst? '=' text with
    | some (word, value) => (word, some value)
    | none => (text, none)
  match scope.settings.find? (·.word == word), scope.switches.find? (·.word == word), value with
  | some s, _, some value => p.attach s value
  | some s, _, none => p.await s
  | none, some w, none => p.flip scope w
  | none, _, _ => .error .misuse

/-- Reads letters that are short for options. What follows the letter of a setting is its value,
with or without an equals sign between them. -/
def readLetters (scope : Scope) (p : Progress) : List Char → Except Ending Progress
  | [] => .ok p
  | c :: rest =>
    match scope.switches.find? (·.letter? == some c) with
    | some w => do readLetters scope (← p.flip scope w) rest
    | none =>
      match scope.settings.find? (·.letter? == some c) with
      | some s =>
        match rest with
        | [] => p.await s
        | '=' :: value => p.attach s (String.ofList value)
        | value => p.attach s (String.ofList value)
      | none => .error .misuse

/-- Reads an argument that begins with a hyphen, as its characters behind that. -/
def readOption (scope : Scope) (p : Progress) : List Char → Except Ending Progress
  | '-' :: word => readWord scope p (String.ofList word)
  | letters => readLetters scope p letters

/-- Reads the arguments of a scope up to a command. The answer holds the command's word and the
arguments behind it. -/
def readScope (scope : Scope) (p : Progress) :
    List String → Except Ending (Progress × Option (String × List String))
  | [] => .ok (p, none)
  | arg :: rest =>
    match p.awaited?, arg.toList with
    | some _, '-' :: _ :: _ => .error .misuse
    | some s, _ => readScope scope { p with pending := some (s, some arg) } rest
    | none, ['-', '-'] => if rest.isEmpty then .ok (p, none) else .error .misuse
    | none, '-' :: c :: cs => do readScope scope (← readOption scope p (c :: cs)) rest
    | none, _ => if scope == .program then .ok (p, some (arg, rest)) else .error .misuse

/-- The page that the words after the request for help name. -/
def helpPage : List String → Except Ending Page
  | [] => .ok (.of .program)
  | [word] =>
    if word == Scope.helpWord then .ok .help
    else match Scope.ofCommand? word with
      | some scope => .ok (.of scope)
      | none => .error .misuse
  | _ => .error .misuse

/-- A command with the settings that were given for it. -/
structure Invocation where
  command : Command
  given : List (Setting × String)
  deriving DecidableEq, Repr

/-- Reads the arguments. A setting after the command comes before one in front of it. -/
def parse (args : List String) : Except Ending Invocation := do
  match ← readScope .program .start args with
  | (p, none) => .ok ⟨Scope.program.command false, (← p.settle).given⟩
  | (p, some (word, rest)) =>
    if word == Scope.helpWord then .error (.help (← helpPage rest))
    else match Scope.ofCommand? word with
      | none => .error .misuse
      | some scope => do
        let (q, _) ← readScope scope .start rest
        let q ← q.settle
        .ok ⟨scope.command q.testConnections, q.given ++ (← p.settle).given⟩

namespace Invocation

/-- The value of a setting. -/
def value? (v : Invocation) (s : Setting) : Option String :=
  (v.given.find? (·.1 == s)).map (·.2)

/-- Takes the settings that were not given from the environment. -/
def withEnvironment (v : Invocation) (env : String → Option String) :
    Except Ending Invocation :=
  let found := Scope.program.settings.filterMap fun s =>
    if (v.value? s).isSome then none else (env s.variableName).map fun value => (s, value)
  if found.all fun (s, value) => s.takes value then .ok { v with given := v.given ++ found }
  else .error .misuse

end Invocation

end DirectoryLogin.CommandLine
