/-!
# JSON values

The tree that structured texts are read into and responses are built from. Object members keep
their order and may repeat a name. Whole numbers of 64 bits are kept exactly; any other number is
kept as it was written, since nothing here computes with one.

A text that goes wrong part of the way is read up to the fault, and `torn` stands for the value in
which it went wrong. A reader of records meets the values in the order of the text, so it finds
out whether a value of the wrong kind or the fault comes first. A value that is written well and
yet stands for nothing is `unreadable`: it does no harm where it is passed over.
-/

namespace DirectoryLogin

inductive Json where
  | null
  | bool (value : Bool)
  | integer (value : Int)
  /-- A number with a fraction or an exponent, or beyond 64 bits. -/
  | decimal (text : String)
  | string (value : String)
  | array (elements : List Json)
  | object (members : List (String × Json))
  /-- A number out of range, or a text with half of a surrogate pair in it. -/
  | unreadable
  /-- A value in which reading failed. -/
  | torn
  deriving Inhabited, Repr

namespace Json

/-- A text or null. -/
def ofOption (value : Option String) : Json :=
  match value with
  | some s => string s
  | none => null

/-- A list of texts. -/
def strings (values : List String) : Json := array (values.map string)

mutual

/-- Some part of the value, or the value itself, has the property. -/
def somewhere (p : Json → Bool) : Json → Bool
  | array elements => p (array elements) || someElement p elements
  | object members => p (object members) || someMember p members
  | v => p v

def someElement (p : Json → Bool) : List Json → Bool
  | [] => false
  | v :: rest => somewhere p v || someElement p rest

def someMember (p : Json → Bool) : List (String × Json) → Bool
  | [] => false
  | (_, v) :: rest => somewhere p v || someMember p rest

end

/-- Reading failed somewhere in the value. -/
def isTorn : Json → Bool := somewhere fun
  | torn => true
  | _ => false

/-- Some part of the value stands for nothing. -/
def isFaulty : Json → Bool := somewhere fun
  | torn => true
  | unreadable => true
  | _ => false

/-- The members of an object, each name with its last value. -/
def lastWins (members : List (String × Json)) : List (String × Json) :=
  members.foldr (fun m kept => if kept.any (·.1 == m.1) then kept else m :: kept) []

mutual

/-- The value with every repeated member name reduced to its last occurrence. -/
def withoutRepeats : Json → Json
  | array elements => array (elementsWithoutRepeats elements)
  | object members => object (lastWins (membersWithoutRepeats members))
  | v => v

def elementsWithoutRepeats : List Json → List Json
  | [] => []
  | v :: rest => withoutRepeats v :: elementsWithoutRepeats rest

def membersWithoutRepeats : List (String × Json) → List (String × Json)
  | [] => []
  | (name, v) :: rest => (name, withoutRepeats v) :: membersWithoutRepeats rest

end

/-- The value of an object's first member of that name. -/
def member? (v : Json) (name : String) : Option Json :=
  match v with
  | object members => (members.find? (·.1 == name)).map (·.2)
  | _ => none

end Json

end DirectoryLogin
