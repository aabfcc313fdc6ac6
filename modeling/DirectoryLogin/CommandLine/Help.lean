import DirectoryLogin.CommandLine.Grammar
import DirectoryLogin.Program

/-!
# Pages of help

A page says what the program or a command is for, how to write it, and lists what can stand in it.
A list has two columns. Where the first is wide and some text would not fit beside it into a line
of 100 characters, every text of the list goes below what it explains.
-/

namespace DirectoryLogin.CommandLine

/-- What the program is for. -/
def programAbout : String := "LDAP login service with single sign-on"

def Scope.about : Scope → String
  | program => programAbout
  | server => "Start the login server"
  | checkConfig => "Validate the configuration"
  | version => "Show version information"

/-- What the word that asks for help is for. -/
def helpAbout : String := "Print this message or the help of the given subcommand(s)"

/-- An item of a list: what can be written, what it means, and where else it can be set. -/
structure HelpItem where
  label : String
  about : String
  origin : String
  deriving DecidableEq, Repr

/-- The width of a line. -/
def lineWidth : Nat := 100

/-- Spaces after a text, up to a width. -/
def padTo (width : Nat) (s : String) : String :=
  s ++ String.ofList (List.replicate (width - s.length) ' ')

namespace HelpItem

/-- The full text of an item. -/
def text (i : HelpItem) : String := if i.origin.isEmpty then i.about else s!"{i.about} {i.origin}"

/-- The text of an item does not fit beside a first column that is wide. -/
def overflows (column : Nat) (i : HelpItem) : Bool :=
  let taken := column + 12
  taken ≤ lineWidth && 40 < taken && lineWidth - taken < i.about.length + i.origin.length

/-- The lines of a list. -/
def lines (items : List HelpItem) : List String :=
  let column := (items.map (·.label.length)).foldl max 2
  if items.any (overflows column) then
    items.flatMap fun i => [s!"  {i.label}", s!"          {i.text}"]
  else items.map fun i => s!"  {padTo (column + 2) i.label}{i.text}"

end HelpItem

/-- An option as it is written, with room for its letter. -/
def optionLabel (letter : Option Char) (word : String) : String :=
  match letter with
  | some c => "-" ++ c.toString ++ ", --" ++ word
  | none => "    --" ++ word

def Switch.item (w : Switch) : HelpItem := ⟨optionLabel w.letter? w.word, w.about, ""⟩

/-- A setting, with the variable that gives it too and the value of that. -/
def Setting.item (env : String → Option String) (s : Setting) : HelpItem :=
  let value := (env s.variableName).getD ""
  ⟨s!"{optionLabel s.letter? s.word} <{s.valueName}>", s.about,
    s!"[env: {s.variableName}={value}]"⟩

namespace Page

/-- The options of a scope. -/
def options (env : String → Option String) (s : Scope) : List HelpItem :=
  s.ownSwitches.map Switch.item ++ s.settings.map (Setting.item env) ++
    s.commonSwitches.map Switch.item

/-- The commands of the program. -/
def commands : List HelpItem :=
  Scope.commands.map (fun (word, s) => ⟨word, s.about, ""⟩) ++ [⟨Scope.helpWord, helpAbout, ""⟩]

/-- The lines of a page. -/
def lines (env : String → Option String) : Page → List String
  | of .program =>
    [programAbout, "", s!"Usage: {programName} [OPTIONS] [COMMAND]", "", "Commands:"] ++
      HelpItem.lines commands ++ ["", "Options:"] ++ HelpItem.lines (options env .program)
  | of scope =>
    let word := ((Scope.commands.find? (·.2 == scope)).map (·.1)).getD ""
    [scope.about, "", s!"Usage: {programName} {word} [OPTIONS]", "", "Options:"] ++
      HelpItem.lines (options env scope)
  | help =>
    [helpAbout, "", s!"Usage: {programName} {Scope.helpWord} [COMMAND]...", "", "Arguments:"] ++
      HelpItem.lines [⟨"[COMMAND]...", "Print help for the subcommand(s)", ""⟩]

end Page

end DirectoryLogin.CommandLine
