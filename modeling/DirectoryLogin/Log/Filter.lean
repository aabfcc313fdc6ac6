import DirectoryLogin.Log.Event
import DirectoryLogin.Settings.Site
import DirectoryLogin.Text.LowerCase
import DirectoryLogin.Text.Search

/-!
# Log filters

A filter is a list of directives, written with commas between them. A directive is

* a level, from which all events are let through: `info`;
* a source, all of whose events are let through: `ldapgate`;
* a source with a level: `ldapgate=debug`.

The name of a span can follow the source in brackets. Events reported here lie in no span, so such
a directive lets none of them through.

Of the directives whose source begins the source of an event, the one with the longest source
decides. `Filter.ofText?` refuses a text with a faulty directive, `Filter.ofTextLossy` leaves faulty
ones out and `faults` words them.
-/

namespace DirectoryLogin.Log

structure Directive where
  /-- The beginning of the sources that are meant; nothing stands for all of them. -/
  source : String
  /-- The last rank that is let through: 0 for none, 5 for all. -/
  rank : Nat
  /-- Only events inside a named span are meant. -/
  onSpans : Bool
  deriving DecidableEq, Repr

/-- Why a directive is refused. -/
inductive DirectiveFault where
  | malformed
  | unknownLevel
  deriving DecidableEq, Repr

/-- The wording of a fault. -/
def DirectiveFault.message : DirectiveFault → String
  | malformed => "invalid filter directive"
  | unknownLevel =>
    "error parsing level filter: expected one of \x22off\x22, \x22error\x22, \x22warn\x22, " ++
      "\x22info\x22, \x22debug\x22, \x22trace\x22, or a number 0-5"

namespace Directive

/-- The rank that a level stands for: its name in any letter case, or its number. -/
def rank? (text : String) : Option Nat :=
  match Settings.Site.naturalBelow? 6 text with
  | some n => some n
  | none =>
    if Text.sameAscii text "off" then some 0
    else (Level.all.find? (Text.sameAscii text ·.name)).map Level.rank

/-- Characters that a directive can begin with. -/
def beginsWith (c : Char) : Bool :=
  c.isAlphanum || 0x80 ≤ c.toNat || c == '-' || c == ':' || c == '_'

/-- A level alone, or else a source alone. -/
def ofName (text : String) : Directive :=
  match rank? text with
  | some r => ⟨"", r, false⟩
  | none => ⟨text, 5, false⟩

/-- A source with a level; an empty level stands for all of them. -/
def ofPair (source level : String) : Except DirectiveFault Directive :=
  if level.isEmpty then .ok ⟨source, 5, false⟩
  else match rank? level with
    | some r => .ok ⟨source, r, false⟩
    | none => .error .unknownLevel

/-- The part of a directive behind the name of a span: nothing, or a level. -/
def ofTail (source : String) : List Char → Except DirectiveFault Directive
  | [] => .ok { source, rank := 5, onSpans := true }
  | '=' :: level => (ofPair source (String.ofList level)).map ({ · with onSpans := true })
  | _ => .error .malformed

/-- Reads one directive. White space around it is left out only where the sign in its middle is
looked for: it stays a part of the source and of the level, and white space in front shifts the
cut. -/
def parse (text : String) : Except DirectiveFault Directive :=
  let bare := Text.stripBoth Text.isBlank text.toList
  match bare with
  | [] => .error .malformed
  | c :: _ =>
    if c != '[' && !beginsWith c then .error .malformed
    else
      let place := (bare.takeWhile fun c => c != '=' && c != '[').length
      let source := String.ofList (text.toList.take place)
      match bare.drop place with
      | [] => .ok (ofName text)
      | '[' :: rest =>
        match Text.cutLast? ']' rest with
        | some (_, tail) => ofTail source tail
        | none => .error .malformed
      | _ => ofPair source (String.ofList (text.toList.drop (place + 1)))

/-- The directive speaks of events from a source, outside all spans. -/
def covers (d : Directive) (source : String) : Bool :=
  !d.onSpans && Text.startsWith source d.source

end Directive

/-- Directives, in the order in which they were written. -/
structure Filter where
  directives : List Directive
  deriving DecidableEq, Repr

namespace Filter

/-- The filter of no directive: it lets errors through. -/
def default : Filter := ⟨[⟨"", Level.error.rank, false⟩]⟩

/-- The filter of some directives. -/
def ofDirectives (ds : List Directive) : Filter := if ds.isEmpty then default else ⟨ds⟩

/-- The texts of the directives. -/
def parts (text : String) : List String := (Text.splitOn ',' text).filter (!·.isEmpty)

/-- The filter of a text without faults. -/
def ofText? (text : String) : Option Filter :=
  ((parts text).mapM fun part => (Directive.parse part).toOption).map ofDirectives

/-- The filter of a text, its faulty directives left out. -/
def ofTextLossy (text : String) : Filter :=
  ofDirectives ((parts text).filterMap fun part => (Directive.parse part).toOption)

/-- A line for each faulty directive of a text. -/
def faults (text : String) : List String :=
  (parts text).filterMap fun part =>
    match Directive.parse part with
    | .ok _ => none
    | .error fault => some s!"ignoring \x60{part}\x60: {fault.message}"

/-- Of two directives the one that decides: that with the longer source, of equal ones the
later. -/
def weightier (a b : Directive) : Directive :=
  if a.source.utf8ByteSize ≤ b.source.utf8ByteSize then b else a

/-- The directive that decides over events from a source. -/
def decisive? (f : Filter) (source : String) : Option Directive :=
  match f.directives.filter (·.covers source) with
  | [] => none
  | d :: ds => some (ds.foldl weightier d)

/-- The filter lets an event through. -/
def admits (f : Filter) (e : Event) : Bool :=
  match f.decisive? e.source with
  | some d => e.level.rank ≤ d.rank
  | none => false

end Filter

end DirectoryLogin.Log
