import DirectoryLogin.Json.Record
import DirectoryLogin.Text.Blank
import DirectoryLogin.Text.Search

/-!
# Server definitions

How one directory server is reached and which of its attributes mean what. A definition is known
by its id. `validate` refuses one that could not be used, and `preset` fills in the attributes
that are usual for a kind of server.
-/

namespace DirectoryLogin

open Json (Reads Record)

/-- The kind of server software. -/
inductive ServerKind where
  | generic
  | activeDirectory
  | openLdap
  | directory389
  deriving DecidableEq, Repr

/-- On whose behalf a search is made. -/
inductive BindMethod where
  | serviceAccount
  /-- The user who logs in, under a name made from the user name. -/
  | user
  | anonymous
  deriving DecidableEq, Repr

namespace ServerKind

def names : List (String × ServerKind) :=
  [("ldap", generic), ("active_directory", activeDirectory), ("open_ldap", openLdap),
   ("directory389", directory389)]

def name : ServerKind → String
  | generic => "ldap"
  | activeDirectory => "active_directory"
  | openLdap => "open_ldap"
  | directory389 => "directory389"

/-- The attribute that usually holds the user name. -/
def userAttribute : ServerKind → String
  | activeDirectory => "sAMAccountName"
  | _ => "uid"

/-- The attribute that usually identifies an entry for good. -/
def persistentAttribute : ServerKind → String
  | activeDirectory => "objectGUID"
  | directory389 => "nsUniqueId"
  | _ => "entryUUID"

end ServerKind

namespace BindMethod

def names : List (String × BindMethod) :=
  [("service_account", serviceAccount), ("user", user), ("anonymous", anonymous)]

def name : BindMethod → String
  | serviceAccount => "service_account"
  | user => "user"
  | anonymous => "anonymous"

end BindMethod

structure ServerDefinition where
  /-- The id by which settings refer to the server. -/
  sid : String
  name : String
  /-- A disabled server is passed over. -/
  enabled : Bool
  kind : ServerKind
  url : String
  startTls : Bool
  bindMethod : BindMethod
  /-- The name under which the service account binds. -/
  bindDn : String
  /-- The password of the service account. -/
  bindPassword : String
  /-- The name under which a user binds, with a placeholder for the user name. -/
  userDnExpression : Option String
  /-- The names below which users are searched for. -/
  baseDns : List String
  /-- The attribute that user names are compared with. -/
  userAttribute : String
  /-- The attribute that gives the account its name; the user attribute if there is none. -/
  accountNameAttribute : Option String
  mailAttribute : String
  /-- The attribute whose value identifies an entry for good. -/
  persistentAttribute : Option String
  groupAttribute : String
  timeoutSeconds : Nat
  deriving DecidableEq, Repr

/-- The placeholder for the user name in the expression of a user bind. -/
def bindPlaceholder : String := "%username"

/-! ## Checks -/

/-- What a definition lacks. -/
inductive ServerFlaw where
  | sidMissing
  | badUrl (sid : String)
  | baseMissing (sid : String)
  | userAttributeMissing (sid : String)
  | noTimeout (sid : String)
  | bindDnMissing (sid : String)
  | placeholderMissing (sid : String)
  deriving DecidableEq, Repr

/-- The wording of a flaw. -/
def ServerFlaw.message : ServerFlaw → String
  | sidMissing => "Server sid is required"
  | badUrl sid => s!"Server '{sid}': URL must start with ldap:// or ldaps://"
  | baseMissing sid => s!"Server '{sid}': at least one base DN is required"
  | userAttributeMissing sid => s!"Server '{sid}': user attribute is required"
  | noTimeout sid => s!"Server '{sid}': timeout_seconds must be at least 1"
  | bindDnMissing sid => s!"Server '{sid}': service account bind requires bind_dn"
  | placeholderMissing sid =>
    s!"Server '{sid}': user bind requires a user_dn_expression containing {bindPlaceholder}"

namespace ServerDefinition

/-- The attribute that gives the account its name. -/
def accountNameAttr (s : ServerDefinition) : String :=
  match s.accountNameAttribute with
  | some name => if name.isEmpty then s.userAttribute else name
  | none => s.userAttribute

/-- The name under which a user binds, if one is defined. -/
def userBindDn (s : ServerDefinition) (username : String) : Option String :=
  s.userDnExpression.map fun expression => Text.replaceAll expression bindPlaceholder username

/-- The expression of a user bind has a place for the user name. -/
def hasPlaceholder (s : ServerDefinition) : Bool :=
  match s.userDnExpression with
  | some expression => Text.contains expression bindPlaceholder
  | none => false

/-- The first flaw of a definition. -/
def validate (s : ServerDefinition) : Except ServerFlaw Unit :=
  if s.sid.isEmpty then .error .sidMissing
  else if !Text.startsWith s.url "ldap://" && !Text.startsWith s.url "ldaps://" then
    .error (.badUrl s.sid)
  else if s.baseDns.all Text.isBlankText then .error (.baseMissing s.sid)
  else if s.userAttribute.isEmpty then .error (.userAttributeMissing s.sid)
  else if s.timeoutSeconds == 0 then .error (.noTimeout s.sid)
  else match s.bindMethod with
    | .serviceAccount => if s.bindDn.isEmpty then .error (.bindDnMissing s.sid) else .ok ()
    | .user => if s.hasPlaceholder then .ok () else .error (.placeholderMissing s.sid)
    | .anonymous => .ok ()

/-- A definition with the attributes that are usual for the kind of server. -/
def preset (sid : String) (kind : ServerKind) (url baseDn : String) : ServerDefinition where
  sid := sid
  name := sid
  enabled := true
  kind := kind
  url := url
  startTls := false
  bindMethod := .serviceAccount
  bindDn := ""
  bindPassword := ""
  userDnExpression := none
  baseDns := [baseDn]
  userAttribute := kind.userAttribute
  accountNameAttribute := none
  mailAttribute := "mail"
  persistentAttribute := some kind.persistentAttribute
  groupAttribute := "memberOf"
  timeoutSeconds := 10

/-! ## JSON -/

def record : Record ServerDefinition :=
  ServerDefinition.mk <$> .required "sid" .string
    <*> .field "name" .string ""
    <*> .field "enabled" .bool true
    <*> .field "server_type" (.choice ServerKind.names) .generic
    <*> .required "server_url" .string
    <*> .field "start_tls" .bool false
    <*> .field "bind_method" (.choice BindMethod.names) .serviceAccount
    <*> .field "bind_dn" .string ""
    <*> .field "bind_password" .string ""
    <*> .field "user_dn_expression" (.option .string) none
    <*> .required "base_dns" (.list .string)
    <*> .field "user_attr" .string "uid"
    <*> .field "account_name_attr" (.option .string) none
    <*> .field "mail_attr" .string "mail"
    <*> .field "unique_persistent_attr" (.option .string) none
    <*> .field "group_attr" .string "memberOf"
    <*> .field "timeout_seconds" (.unsigned 64) 10

def toJson (s : ServerDefinition) : Json := .object [
  ("sid", .string s.sid),
  ("name", .string s.name),
  ("enabled", .bool s.enabled),
  ("server_type", .string s.kind.name),
  ("server_url", .string s.url),
  ("start_tls", .bool s.startTls),
  ("bind_method", .string s.bindMethod.name),
  ("bind_dn", .string s.bindDn),
  ("bind_password", .string s.bindPassword),
  ("user_dn_expression", .ofOption s.userDnExpression),
  ("base_dns", .strings s.baseDns),
  ("user_attr", .string s.userAttribute),
  ("account_name_attr", .ofOption s.accountNameAttribute),
  ("mail_attr", .string s.mailAttribute),
  ("unique_persistent_attr", .ofOption s.persistentAttribute),
  ("group_attr", .string s.groupAttribute),
  ("timeout_seconds", .integer s.timeoutSeconds)]

/-- What an administrator gets to see: the password of the service account is reduced to whether
there is one, and the account name attribute is the one in use. -/
def publicJson (s : ServerDefinition) : Json := .object [
  ("sid", .string s.sid),
  ("name", .string s.name),
  ("enabled", .bool s.enabled),
  ("server_type", .string s.kind.name),
  ("server_url", .string s.url),
  ("start_tls", .bool s.startTls),
  ("bind_method", .string s.bindMethod.name),
  ("bind_dn", .string s.bindDn),
  ("has_bind_password", .bool !s.bindPassword.isEmpty),
  ("user_dn_expression", .ofOption s.userDnExpression),
  ("base_dns", .strings s.baseDns),
  ("user_attr", .string s.userAttribute),
  ("account_name_attr", .string s.accountNameAttr),
  ("mail_attr", .string s.mailAttribute),
  ("unique_persistent_attr", .ofOption s.persistentAttribute),
  ("group_attr", .string s.groupAttribute),
  ("timeout_seconds", .integer s.timeoutSeconds)]

end ServerDefinition

end DirectoryLogin
