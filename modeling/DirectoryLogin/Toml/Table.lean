import DirectoryLogin.Json.Basic

/-!
# The tables of a TOML document

A document is built up from headers and keys with values. A table that a header or a dotted key
opens may be added to later, a value may not, and no key may be given twice.
-/

namespace DirectoryLogin.Toml

/-- How a table came about. -/
inductive Origin where
  /-- On the way to the table of a header. -/
  | implied
  /-- By a header of its own. -/
  | header
  /-- By a dotted key. -/
  | dotted
  deriving DecidableEq, Repr

/-- What stands under a key. -/
inductive Node where
  | value (v : Json)
  | table (origin : Origin) (members : List (String × Node))
  /-- An array of tables, the one to add to first. -/
  | tables (elements : List (List (String × Node)))
  deriving Inhabited

/-- The members of a table. -/
abbrev Members := List (String × Node)

namespace Members

def get? (ms : Members) (key : String) : Option Node := (ms.find? (·.1 == key)).map (·.2)

/-- Puts a node under a key, in place of the one before. -/
def put (ms : Members) (key : String) (node : Node) : Members :=
  if ms.any (·.1 == key) then ms.map fun m => if m.1 == key then (key, node) else m
  else ms ++ [(key, node)]

/-- Changes the table at the end of a path, and makes the tables on the way that are missing.
`by_` is the origin of the path, and `change` gets to know that of the table, which is `here` for
an empty path. A dotted key leads through no table that has a header of its own. -/
def descend (by_ here : Origin) (change : Origin → Members → Option Members) :
    List String → Members → Option Members
  | [], ms => change here ms
  | key :: path, ms =>
    match ms.get? key with
    | none => do
      let inner ← descend by_ by_ change path []
      some (ms.put key (.table by_ inner))
    | some (.value _) => none
    | some (.table present inner) =>
      if by_ == .dotted && present == .header then none
      else do
        let inner ← descend by_ present change path inner
        some (ms.put key (.table present inner))
    | some (.tables []) => none
    | some (.tables (current :: earlier)) =>
      if by_ == .dotted then none
      else do
        let current ← descend by_ .header change path current
        some (ms.put key (.tables (current :: earlier)))

/-- Splits a key into the path and the last part. -/
def splitKey (key : List String) : Option (List String × String) :=
  key.getLast?.map (key.dropLast, ·)

/-- Gives a key a value. A dotted key adds to a table that dotted keys have made. -/
def assign (ms : Members) (key : List String) (v : Json) : Option Members := do
  let (path, last) ← splitKey key
  let change (origin : Origin) (t : Members) : Option Members :=
    if (t.get? last).isSome || (!path.isEmpty && origin != .dotted) then none
    else some (t.put last (.value v))
  descend .dotted .header change path ms

/-- Opens the table of a header. -/
def openTable (ms : Members) (key : List String) : Option Members := do
  let (path, last) ← splitKey key
  let change (_ : Origin) (t : Members) : Option Members :=
    match t.get? last with
    | none => some (t.put last (.table .header []))
    | some (.table .implied inner) => some (t.put last (.table .header inner))
    | some _ => none
  descend .implied .header change path ms

/-- Opens a further table of an array of tables. -/
def openElement (ms : Members) (key : List String) : Option Members := do
  let (path, last) ← splitKey key
  let change (_ : Origin) (t : Members) : Option Members :=
    match t.get? last with
    | none => some (t.put last (.tables [[]]))
    | some (.tables elements) => some (t.put last (.tables ([] :: elements)))
    | some _ => none
  descend .implied .header change path ms

/-- Gives a key a value inside the table of a header. -/
def assignWithin (ms : Members) (header key : List String) (v : Json) : Option Members :=
  descend .implied .header (fun _ t => assign t key v) header ms

end Members

mutual

/-- The value of a node. -/
def Node.toJson : Node → Json
  | .value v => v
  | .table _ members => .object (membersJson members)
  | .tables elements => .array (elementsJson elements).reverse

def membersJson : List (String × Node) → List (String × Json)
  | [] => []
  | (key, node) :: rest => (key, node.toJson) :: membersJson rest

def elementsJson : List (List (String × Node)) → List Json
  | [] => []
  | members :: rest => .object (membersJson members) :: elementsJson rest

end

end DirectoryLogin.Toml
