import DirectoryLogin.Text.LowerCase
import DirectoryLogin.Text.Search

/-!
# Directory entries

An entry has a distinguished name, the id of the server that holds it, and attributes, each with
any number of values. Attribute names compare without regard to ASCII letter case; an attribute
spelled exactly as asked takes precedence over one that differs in case.
-/

namespace DirectoryLogin

structure Entry where
  /-- The distinguished name. -/
  dn : String
  /-- The id of the server that holds the entry. -/
  sid : String
  /-- The attributes, with pairwise different names. -/
  attributes : List (String × List String)
  deriving DecidableEq, Repr

namespace Entry

/-- Adds a value after those an attribute has. -/
def addValue (e : Entry) (name value : String) : Entry :=
  let rec add : List (String × List String) → List (String × List String)
    | [] => [(name, [value])]
    | (n, values) :: rest =>
      if n = name then (n, values ++ [value]) :: rest else (n, values) :: add rest
  { e with attributes := add e.attributes }

/-- The values of the attribute spelled exactly so, else of the first that differs in ASCII letter
case only. -/
def values (e : Entry) (name : String) : List String :=
  match e.attributes.find? (·.1 == name) with
  | some (_, values) => values
  | none =>
    match e.attributes.find? (Text.sameAscii ·.1 name) with
    | some (_, values) => values
    | none => []

/-- The first value of an attribute. -/
def value? (e : Entry) (name : String) : Option String := (e.values name).head?

/-- The attribute has a value. -/
def has (e : Entry) (name : String) : Bool := !(e.values name).isEmpty

/-- The fragment occurs in the distinguished name, both in lower case. -/
def dnContains (e : Entry) (fragment : String) : Bool :=
  Text.contains (Text.lower e.dn) (Text.lower fragment)

end Entry

end DirectoryLogin
