import DirectoryLogin.Failure.Basic
import DirectoryLogin.Settings.Authorization

/-!
# Authorizations

A provider says which roles an entry is granted. The one in use maps the groups of an entry to
roles: a group matches by its full name, or by its leading common name where the mapping names no
attribute. White space around commas does not count in names of groups, nor does letter case
unless the settings say so.
-/

namespace DirectoryLogin

/-- Says which roles an entry is granted. -/
structure Provider where
  enabled : Bool
  /-- Who receives the roles. -/
  consumer : String
  /-- The roles of an entry on a server with the given group attribute. -/
  grants : Entry → (groupAttribute : String) → Except Failure (List String)

namespace Provider

/-- No authorization. -/
def none : Provider := ⟨false, "none", fun _ _ => .ok []⟩

/-- A provider whose lookups fail. -/
def outage (message : String) : Provider := ⟨true, "local_role", fun _ _ => .error (.lookup message)⟩

end Provider

namespace Groups

open Settings (Authorization GroupMapping)

/-- The name of a group without white space around its commas, in lower case unless case counts. -/
def normalize (caseSensitive : Bool) (name : String) : String :=
  let compact := String.intercalate "," ((Text.splitOn ',' name).map Text.trim)
  if caseSensitive then compact else Text.lower compact

/-- The value of the first component of a name, where that is a common name. -/
def leadingCommonName? (dn : String) : Option String :=
  match (Text.splitOn ',' dn).head? with
  | none => none
  | some first =>
    match Text.splitFirst? '=' first with
    | some (key, value) => if Text.sameAscii (Text.trim key) "cn" then some (Text.trim value) else none
    | none => none

/-- A group is the one that a mapping names. -/
def isNamedBy (caseSensitive : Bool) (name group : String) : Bool :=
  let group := normalize caseSensitive group
  let name := normalize caseSensitive name
  group == name || (!name.toList.contains '=' && leadingCommonName? group == some name)

/-- The roles of the mappings that match a group, in the order of the mappings and each once. -/
def rolesFrom (caseSensitive : Bool) (groups : List String) (roles : List String) :
    List GroupMapping → List String
  | [] => roles
  | m :: rest =>
    if !roles.contains m.role && groups.any (isNamedBy caseSensitive m.group) then
      rolesFrom caseSensitive groups (roles ++ [m.role]) rest
    else rolesFrom caseSensitive groups roles rest

/-- The attribute that lists the groups of an entry. -/
def attributeName (c : Authorization) (groupAttribute : String) : String :=
  (c.groupAttribute.filter (!·.isEmpty)).getD groupAttribute

/-- The roles granted to an entry. -/
def grants (c : Authorization) (e : Entry) (groupAttribute : String) : List String :=
  if c.enabled then
    rolesFrom c.caseSensitive (e.values (attributeName c groupAttribute)) [] c.mappings
  else []

end Groups

/-- The provider that maps groups to roles. -/
def Provider.ofSettings (c : Settings.Authorization) : Provider :=
  ⟨c.enabled, c.consumer, fun e groupAttribute => .ok (Groups.grants c e groupAttribute)⟩

end DirectoryLogin
