import DirectoryLogin.Json.Basic

/-!
# Reading records from JSON

A `Reads α` takes a value apart and either finds an `α` in it or says what is wrong: the text
itself (`torn`) or the kind of value (`mismatch`). Values are met in the order of the text, so of
two faults the earlier one is reported.

A record is described by its fields, each with its name, the way to read it and what stands in
for it when it is absent. The description reads two forms:

* an object, in any order; unknown members are skipped, a repeated one is a mismatch;
* an array with the fields in their order, of which the last ones may be absent.
-/

namespace DirectoryLogin.Json

/-- Why a value is refused. -/
inductive Fault where
  /-- The text goes wrong inside the value. -/
  | torn
  /-- The value is of the wrong kind, or lacks something. -/
  | mismatch
  deriving DecidableEq, Repr

/-- Where text formats differ in the records that they admit. -/
structure Dialect where
  /-- The payload that a choice written as an object carries. -/
  isUnit : Json → Bool
  /-- An array may be longer than its record. -/
  surplus : Bool

/-- JSON: a choice has the payload null, and a record has no surplus. -/
def Dialect.json : Dialect where
  isUnit := fun
    | null => true
    | _ => false
  surplus := false

/-- Finds an `α` in a value. -/
abbrev Reads (α : Type) := Dialect → Json → Except Fault α

/-- Refuses a value of the wrong kind. The contents of an array or object are not looked at. -/
def refuse {α : Type} : Json → Except Fault α
  | .torn => .error .torn
  | .unreadable => .error .torn
  | _ => .error .mismatch

namespace Reads

/-! ## Single values -/

def string : Reads String := fun _ v =>
  match v with
  | .string s => .ok s
  | v => refuse v

def bool : Reads Bool := fun _ v =>
  match v with
  | .bool b => .ok b
  | v => refuse v

/-- A whole number from `low` to `high`. -/
def integer (low high : Int) : Reads Int := fun _ v =>
  match v with
  | .integer n => if low ≤ n ∧ n ≤ high then .ok n else .error .mismatch
  | v => refuse v

/-- A natural number of at most `bits` bits. -/
def unsigned (bits : Nat) : Reads Nat := fun d v =>
  (integer 0 (Int.ofNat (1 <<< bits) - 1) d v).map Int.toNat

/-- A value or null. -/
def option {α : Type} (item : Reads α) : Reads (Option α) := fun d v =>
  match v with
  | .null => .ok none
  | v => (item d v).map some

/-- An array of any length. -/
def list {α : Type} (item : Reads α) : Reads (List α) := fun d v =>
  match v with
  | .array elements => elements.mapM (item d)
  | v => refuse v

/-- One of a fixed set of names, alone or as the name of an object's only member. A value of
another kind counts as a fault of the text. -/
def choice {α : Type} (names : List (String × α)) : Reads α := fun d v =>
  let named (name : String) : Except Fault α :=
    match names.find? (·.1 == name) with
    | some (_, a) => .ok a
    | none => .error .mismatch
  match v with
  | .string name => named name
  | .object ((name, payload) :: more) => do
    let a ← if name == "" && payload.isTorn then .error .torn else named name
    if !d.isUnit payload then refuse payload
    else if more.isEmpty then .ok a
    else .error .torn
  | _ => .error .torn

end Reads

/-! ## Records -/

/-- A field of a record: its names, of which the first is the proper one, and a test that its
value can be read. -/
structure Field where
  name : String
  aliases : List String
  check : Dialect → Json → Except Fault Unit

/-- The fields of a record, and how to build it from their values. The flag tells whether the
values stand in an array. -/
structure Record (α : Type) where
  fields : List Field
  build : Dialect → Bool → List (String × Json) → Except Fault α

namespace Record

instance : Functor Record where
  map f r := ⟨r.fields, fun d inArray values => (r.build d inArray values).map f⟩

instance : Seq Record where
  seq f x :=
    ⟨f.fields ++ (x ()).fields, fun d inArray values => do
      let g ← f.build d inArray values
      let a ← (x ()).build d inArray values
      .ok (g a)⟩

/-- A field with further names. `absent` stands in for a member that an object lacks, `short` for
an element that an array lacks; without it the record is refused. -/
def fieldNamed {α : Type} (name : String) (aliases : List String) (item : Reads α)
    (absent short : Option α) : Record α where
  fields := [⟨name, aliases, fun d v => (item d v).map fun _ => ()⟩]
  build d inArray values :=
    match values.find? (·.1 == name) with
    | some (_, v) => item d v
    | none =>
      match if inArray then short else absent with
      | some a => .ok a
      | none => .error .mismatch

/-- A field that may be absent. -/
def field {α : Type} (name : String) (item : Reads α) (absent : α) : Record α :=
  fieldNamed name [] item (some absent) (some absent)

/-- A field that must be there. -/
def required {α : Type} (name : String) (item : Reads α) : Record α :=
  fieldNamed name [] item none none

/-- The values of the known members, under their proper names and in the order of the text. -/
def gather (fields : List Field) (d : Dialect) (seen : List (String × Json)) :
    List (String × Json) → Except Fault (List (String × Json))
  | [] => .ok seen
  | (key, v) :: rest =>
    match fields.find? fun f => f.name == key || f.aliases.contains key with
    | none => if v.isTorn then .error .torn else gather fields d seen rest
    | some f =>
      if seen.any (·.1 == f.name) then .error .mismatch
      else do
        f.check d v
        gather fields d (seen ++ [(f.name, v)]) rest

/-- The elements of an array under the names of the fields. -/
def lineUp (d : Dialect) : List Field → List Json → Except Fault (List (String × Json))
  | _, [] => .ok []
  | [], _ :: _ => if d.surplus then .ok [] else .error .torn
  | f :: fields, v :: rest => do
    f.check d v
    let values ← lineUp d fields rest
    .ok ((f.name, v) :: values)

/-- Reads a record from an object or an array. -/
def reads {α : Type} (r : Record α) : Reads α := fun d v =>
  match v with
  | .object members => do
    let values ← gather r.fields d [] members
    r.build d false values
  | .array elements => do
    let values ← lineUp d r.fields elements
    r.build d true values
  | v => refuse v

end Record

/-- Reads a whole text. Anything after its value is a fault of the text. -/
def Reads.text {α : Type} (item : Reads α) (v : Json) (more : Bool) : Except Fault α := do
  let a ← item .json v
  if more then .error .torn else .ok a

end DirectoryLogin.Json
