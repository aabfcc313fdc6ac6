import DirectoryLogin.Json.Record

/-!
# Authorization settings

How the groups of an entry are turned into roles.
-/

namespace DirectoryLogin.Settings

open Json (Reads Record)

/-- A group, given by its full name or its common name, and the role that it grants. -/
structure GroupMapping where
  group : String
  role : String
  deriving DecidableEq, Repr

structure Authorization where
  enabled : Bool
  /-- Who receives the roles. -/
  consumer : String
  /-- The attribute that lists the groups; the server's group attribute if there is none. -/
  groupAttribute : Option String
  mappings : List GroupMapping
  caseSensitive : Bool
  deriving DecidableEq, Repr

namespace GroupMapping

def record : Record GroupMapping :=
  GroupMapping.mk <$> .required "from" .string <*> .required "to" .string

def toJson (m : GroupMapping) : Json :=
  .object [("from", .string m.group), ("to", .string m.role)]

end GroupMapping

namespace Authorization

/-- No authorization. -/
def default : Authorization where
  enabled := false
  consumer := "local_role"
  groupAttribute := none
  mappings := []
  caseSensitive := false

def record : Record Authorization :=
  Authorization.mk <$> .field "enabled" .bool false
    <*> .field "consumer" .string "local_role"
    <*> .field "group_attr" (.option .string) none
    <*> .field "mappings" (.list GroupMapping.record.reads) []
    <*> .field "case_sensitive" .bool false

def toJson (c : Authorization) : Json := .object [
  ("enabled", .bool c.enabled),
  ("consumer", .string c.consumer),
  ("group_attr", .ofOption c.groupAttribute),
  ("mappings", .array (c.mappings.map GroupMapping.toJson)),
  ("case_sensitive", .bool c.caseSensitive)]

end Authorization

end DirectoryLogin.Settings
