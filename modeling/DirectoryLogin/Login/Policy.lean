import DirectoryLogin.Login.Authorization
import DirectoryLogin.Login.Identity
import DirectoryLogin.Predicate.Eval

/-!
# The policy gate

An identity is admitted if it passes, in this order, the list of fragments of which its name must
contain one, the list of fragments that its name must not contain, the predicate of the settings,
the registered rules, and the demand for an authorization. The first check that it fails decides
the failure. On admission the gate tells the roles that the provider granted, if it answered.
-/

namespace DirectoryLogin

open Predicate (PredicateError)

/-- A rule registered beside the settings. -/
structure Rule where
  name : String
  judge : Entry → (username : String) → Except PredicateError Bool

/-- The rule that an expression makes. -/
def Rule.ofExpr (e : Predicate.Expr) : Rule := ⟨"expression", fun entry username => .ok (e.eval entry username)⟩

namespace Policy

open Settings (Authentication)

/-- The fragments of which the name must contain one, unless there are none. -/
def checkAllowList (c : Authentication) (e : Entry) : Except Failure Unit :=
  if !c.allowOnlyIfTextInDn.isEmpty && !c.allowOnlyIfTextInDn.any e.dnContains then
    .error (.disallowed .notInAllowList)
  else .ok ()

/-- The fragments that the name must not contain. -/
def checkDenyList (c : Authentication) (e : Entry) : Except Failure Unit :=
  if c.excludeIfTextInDn.any e.dnContains then .error (.disallowed .inDenyList) else .ok ()

/-- The predicate of the settings. One that cannot be evaluated admits nobody. -/
def checkPredicate (c : Authentication) (i : Identity) : Except Failure Unit :=
  match c.predicateSource with
  | none => .ok ()
  | some source =>
    if !c.predicateEvaluatorEnabled then .error (.misconfigured .evaluatorDisabled)
    else match Predicate.parse source with
      | .error e => .error (.misconfigured (.predicate e))
      | .ok expr =>
        if expr.eval i.entry i.username then .ok () else .error (.disallowed .predicateFalse)

/-- The registered rules, in order. -/
def checkRules (i : Identity) : List Rule → Except Failure Unit
  | [] => .ok ()
  | rule :: rest =>
    match rule.judge i.entry i.username with
    | .ok true => checkRules i rest
    | .ok false => .error (.disallowed (.registeredFalse rule.name))
    | .error e => .error (.misconfigured (.registered rule.name e))

/-- The roles that the provider grants, if it is enabled and answers. A lookup may fail unless an
authorization is demanded. -/
def lookupGrants (c : Authentication) (p : Provider) (i : Identity) :
    Except Failure (Option (List String)) :=
  if !p.enabled then .ok none
  else match p.grants i.entry i.definition.groupAttribute with
    | .ok roles => .ok (some roles)
    | .error e => if c.excludeIfNoAuthorizations then .error e else .ok none

/-- The demand for an authorization. -/
def checkGrants (c : Authentication) (p : Provider) (grants : Option (List String)) :
    Except Failure Unit :=
  if !c.excludeIfNoAuthorizations then .ok ()
  else if !p.enabled then .error (.misconfigured .noProvider)
  else match grants with
    | none | some [] => .error (.disallowed .noAuthorizations)
    | some (_ :: _) => .ok ()

/-- Admits an identity with the roles granted to it, or tells why not. -/
def evaluate (c : Authentication) (p : Provider) (rules : List Rule) (i : Identity) :
    Except Failure (Option (List String)) := do
  checkAllowList c i.entry
  checkDenyList c i.entry
  checkPredicate c i
  checkRules i rules
  let grants ← lookupGrants c p i
  checkGrants c p grants
  .ok grants

end Policy

end DirectoryLogin
