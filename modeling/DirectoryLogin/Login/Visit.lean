import DirectoryLogin.Text.Blank
import DirectoryLogin.Text.LowerCase
import DirectoryLogin.Text.Search

/-!
# Visits

What single sign-on gets to know of a request: its path, its host and the variables set by the
front end. Variable names compare without regard to ASCII letter case, an exact spelling first,
and a blank value counts as none.
-/

namespace DirectoryLogin

structure Visit where
  /-- The variables, with pairwise different names. -/
  vars : List (String × String)
  path : String
  /-- The host without its port. -/
  host : String
  deriving DecidableEq, Repr

namespace Visit

/-- The value of a variable as it was set. -/
def raw? (v : Visit) (name : String) : Option String :=
  match v.vars.find? (·.1 == name) with
  | some (_, value) => some value
  | none => (v.vars.find? (Text.sameAscii ·.1 name)).map (·.2)

/-- The trimmed value of a variable, blank ones left out. -/
def value? (v : Visit) (name : String) : Option String := (v.raw? name).bind Text.nonBlank?

end Visit

/-- A path matches a pattern: up to the final `*` of a pattern that ends in one, else as a whole,
slashes at the end aside. -/
def pathMatches (pattern path : String) : Bool :=
  let pattern := Text.trim pattern
  match Text.dropEnd? pattern "*" with
  | some start => Text.startsWith path start
  | none => path == pattern || Text.dropTrailing '/' path == Text.dropTrailing '/' pattern

end DirectoryLogin
