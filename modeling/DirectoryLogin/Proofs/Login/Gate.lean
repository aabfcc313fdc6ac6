import DirectoryLogin.Login.Policy
import DirectoryLogin.Proofs.Failure.Results
import Mathlib.Logic.Unique

/-!
# What the policy gate admits

The gate makes five checks, each of which an identity passes, or fails with a failure of its own.

* `Check.Passed`, `Check.Failed`: what a check asks of an identity, and what it is told if it does
  not have it;
* `checkAllowList_eq_ok_iff` to `authorize_eq_error_iff`: the two for each check;
* `gate_exact`: an identity is admitted just when it passes all checks, it is told the failure of
  the first check that it does not pass, and on admission the gate tells the roles of a provider
  that is enabled and answered.
-/

namespace DirectoryLogin.Policy

open Settings (Authentication)

/-- The checks of the gate, in their order. -/
inductive Check where
  | allowList
  | denyList
  | predicate
  | rules
  | authorizations
  deriving DecidableEq, Repr

/-- The place of a check in the order. -/
def Check.place : Check → Nat
  | allowList => 0
  | denyList => 1
  | predicate => 2
  | rules => 3
  | authorizations => 4

/-- The provider is enabled and answers with the roles. -/
def Granted (p : Provider) (i : Identity) (roles : List String) : Prop :=
  p.enabled = true ∧ p.grants i.entry i.definition.groupAttribute = .ok roles

/-- The identity passes the check. -/
def Check.Passed (c : Authentication) (p : Provider) (rs : List Rule) (i : Identity) :
    Check → Prop
  | allowList => c.allowOnlyIfTextInDn = [] ∨
      ∃ fragment ∈ c.allowOnlyIfTextInDn, i.entry.dnContains fragment = true
  | denyList => ∀ fragment ∈ c.excludeIfTextInDn, i.entry.dnContains fragment = false
  | predicate => ∀ source, c.predicateSource = some source →
      c.predicateEvaluatorEnabled = true ∧
        ∃ expr, Predicate.parse source = .ok expr ∧ expr.eval i.entry i.username = true
  | rules => ∀ rule ∈ rs, rule.judge i.entry i.username = .ok true
  | authorizations => c.excludeIfNoAuthorizations = true → ∃ roles, Granted p i roles ∧ roles ≠ []

/-- The identity fails the check and is told the failure. -/
inductive Check.Failed (c : Authentication) (p : Provider) (rs : List Rule) (i : Identity) :
    Check → Failure → Prop
  | notInAllowList :
      c.allowOnlyIfTextInDn ≠ [] →
      (∀ fragment ∈ c.allowOnlyIfTextInDn, i.entry.dnContains fragment = false) →
      Failed c p rs i .allowList (.disallowed .notInAllowList)
  | inDenyList (fragment : String) :
      fragment ∈ c.excludeIfTextInDn → i.entry.dnContains fragment = true →
      Failed c p rs i .denyList (.disallowed .inDenyList)
  | evaluatorDisabled (source : String) :
      c.predicateSource = some source → c.predicateEvaluatorEnabled = false →
      Failed c p rs i .predicate (.misconfigured .evaluatorDisabled)
  | unparsed (source : String) (e : Predicate.PredicateError) :
      c.predicateSource = some source → c.predicateEvaluatorEnabled = true →
      Predicate.parse source = .error e →
      Failed c p rs i .predicate (.misconfigured (.predicate e))
  | predicateFalse (source : String) (expr : Predicate.Expr) :
      c.predicateSource = some source → c.predicateEvaluatorEnabled = true →
      Predicate.parse source = .ok expr → expr.eval i.entry i.username = false →
      Failed c p rs i .predicate (.disallowed .predicateFalse)
  | ruleFalse (before after : List Rule) (rule : Rule) :
      rs = before ++ rule :: after → (∀ r ∈ before, r.judge i.entry i.username = .ok true) →
      rule.judge i.entry i.username = .ok false →
      Failed c p rs i .rules (.disallowed (.registeredFalse rule.name))
  | ruleError (before after : List Rule) (rule : Rule) (e : Predicate.PredicateError) :
      rs = before ++ rule :: after → (∀ r ∈ before, r.judge i.entry i.username = .ok true) →
      rule.judge i.entry i.username = .error e →
      Failed c p rs i .rules (.misconfigured (.registered rule.name e))
  | noProvider :
      c.excludeIfNoAuthorizations = true → p.enabled = false →
      Failed c p rs i .authorizations (.misconfigured .noProvider)
  | lookupFailed (f : Failure) :
      c.excludeIfNoAuthorizations = true → p.enabled = true →
      p.grants i.entry i.definition.groupAttribute = .error f →
      Failed c p rs i .authorizations f
  | noAuthorizations :
      c.excludeIfNoAuthorizations = true → Granted p i [] →
      Failed c p rs i .authorizations (.disallowed .noAuthorizations)

namespace Check

variable {P : Check → Prop}

theorem forall_iff : (∀ k, P k) ↔
    P allowList ∧ P denyList ∧ P predicate ∧ P rules ∧ P authorizations := by
  refine ⟨fun h => ⟨h _, h _, h _, h _, h _⟩, ?_⟩
  rintro ⟨hallow, hdeny, hpredicate, hrules, hauthorizations⟩ k
  cases k <;> assumption

theorem exists_iff : (∃ k, P k) ↔
    P allowList ∨ P denyList ∨ P predicate ∨ P rules ∨ P authorizations := by
  constructor
  · rintro ⟨k, h⟩
    cases k <;> simp [h]
  · rintro (h | h | h | h | h) <;> exact ⟨_, h⟩

end Check

variable {c : Authentication} {p : Provider} {rs : List Rule} {i : Identity} {f : Failure}
  {grants : Option (List String)}

/-! ## The lists -/

theorem checkAllowList_eq_ok_iff (p : Provider) (rs : List Rule) :
    checkAllowList c i.entry = .ok () ↔ Check.allowList.Passed c p rs i := by
  unfold checkAllowList Check.Passed
  by_cases hl : c.allowOnlyIfTextInDn = []
  · simp [hl]
  · by_cases ha : ∃ fragment ∈ c.allowOnlyIfTextInDn, i.entry.dnContains fragment = true
    · have hany : c.allowOnlyIfTextInDn.any i.entry.dnContains = true := List.any_eq_true.mpr ha
      simp [hl, hany, ha]
    · have hany : c.allowOnlyIfTextInDn.any i.entry.dnContains = false := by
        simpa using ha
      simp [hl, hany, ha]

theorem checkAllowList_eq_error_iff (p : Provider) (rs : List Rule) :
    checkAllowList c i.entry = .error f ↔ Check.allowList.Failed c p rs i f := by
  unfold checkAllowList
  constructor
  · intro h
    split at h
    · rename_i hc
      cases h
      simp only [Bool.and_eq_true, Bool.not_eq_true', List.isEmpty_eq_false_iff,
        List.any_eq_false] at hc
      exact .notInAllowList hc.1 fun fragment hm => by simpa using hc.2 fragment hm
    · cases h
  · intro h
    cases h with
    | notInAllowList hl hn =>
      have hany : c.allowOnlyIfTextInDn.any i.entry.dnContains = false := by
        simpa using hn
      simp [hl, hany]

theorem checkDenyList_eq_ok_iff (p : Provider) (rs : List Rule) :
    checkDenyList c i.entry = .ok () ↔ Check.denyList.Passed c p rs i := by
  unfold checkDenyList Check.Passed
  split
  · rename_i h
    simpa using h
  · rename_i h
    simpa using h

theorem checkDenyList_eq_error_iff (p : Provider) (rs : List Rule) :
    checkDenyList c i.entry = .error f ↔ Check.denyList.Failed c p rs i f := by
  unfold checkDenyList
  constructor
  · intro h
    split at h
    · rename_i hc
      cases h
      obtain ⟨fragment, hm, hd⟩ := List.any_eq_true.mp hc
      exact .inDenyList fragment hm hd
    · cases h
  · intro h
    cases h with
    | inDenyList fragment hm hd => rw [if_pos (List.any_eq_true.mpr ⟨fragment, hm, hd⟩)]

/-! ## The predicate and the rules -/

theorem checkPredicate_eq_ok_iff (p : Provider) (rs : List Rule) :
    checkPredicate c i = .ok () ↔ Check.predicate.Passed c p rs i := by
  unfold checkPredicate Check.Passed
  cases hs : c.predicateSource with
  | none => simp
  | some source =>
    cases he : c.predicateEvaluatorEnabled with
    | false => simp
    | true =>
      cases hp : Predicate.parse source with
      | error e => simp [hp]
      | ok expr => simp [hp]

theorem checkPredicate_eq_error_iff (p : Provider) (rs : List Rule) :
    checkPredicate c i = .error f ↔ Check.predicate.Failed c p rs i f := by
  unfold checkPredicate
  constructor
  · intro h
    split at h
    · cases h
    · rename_i source hs
      split at h
      · rename_i he
        cases h
        exact .evaluatorDisabled source hs (by simpa using he)
      · rename_i he
        have henabled : c.predicateEvaluatorEnabled = true := by simpa using he
        split at h
        · rename_i e hp
          cases h
          exact .unparsed source e hs henabled hp
        · rename_i expr hp
          split at h
          · cases h
          · rename_i hv
            cases h
            exact .predicateFalse source expr hs henabled hp (by simpa using hv)
  · intro h
    cases h with
    | evaluatorDisabled source hs he => simp [hs, he]
    | unparsed source e hs he hp => simp [hs, he, hp]
    | predicateFalse source expr hs he hp hv => simp [hs, he, hp, hv]

theorem checkRules_eq_ok_iff (c : Authentication) (p : Provider) :
    checkRules i rs = .ok () ↔ Check.rules.Passed c p rs i := by
  unfold Check.Passed
  induction rs with
  | nil => simp [checkRules]
  | cons rule rest ih =>
    unfold checkRules
    split
    · rename_i hj
      simp [ih, hj]
    · rename_i hj
      simp [hj]
    · rename_i e hj
      simp [hj]

theorem checkRules_append {before after : List Rule}
    (h : ∀ r ∈ before, r.judge i.entry i.username = .ok true) :
    checkRules i (before ++ after) = checkRules i after := by
  induction before with
  | nil => rfl
  | cons rule before ih =>
    obtain ⟨hrule, hbefore⟩ := List.forall_mem_cons.mp h
    rw [List.cons_append, checkRules, hrule]
    exact ih hbefore

theorem checkRules_eq_error_iff (c : Authentication) (p : Provider) :
    checkRules i rs = .error f ↔ Check.rules.Failed c p rs i f := by
  constructor
  · intro h
    induction rs with
    | nil => cases h
    | cons rule rest ih =>
      unfold checkRules at h
      split at h
      · rename_i hj
        -- The rule holds, so that the failure is one of the rest.
        cases ih h with
        | ruleFalse before after bad hrs hb hbad =>
          exact .ruleFalse (rule :: before) after bad (by rw [hrs]; rfl)
            (List.forall_mem_cons.mpr ⟨hj, hb⟩) hbad
        | ruleError before after bad e hrs hb hbad =>
          exact .ruleError (rule :: before) after bad e (by rw [hrs]; rfl)
            (List.forall_mem_cons.mpr ⟨hj, hb⟩) hbad
      · rename_i hj
        cases h
        exact .ruleFalse [] rest rule rfl nofun hj
      · rename_i e hj
        cases h
        exact .ruleError [] rest rule e rfl nofun hj
  · intro h
    cases h with
    | ruleFalse before after rule hrs hb hj => rw [hrs, checkRules_append hb, checkRules, hj]
    | ruleError before after rule e hrs hb hj => rw [hrs, checkRules_append hb, checkRules, hj]

/-! ## The authorizations -/

/-- The last check: the lookup and the demand together. -/
def authorize (c : Authentication) (p : Provider) (i : Identity) :
    Except Failure (Option (List String)) := do
  let grants ← lookupGrants c p i
  checkGrants c p grants
  .ok grants

/-- The roles that the provider answers with, if it is enabled and answers. -/
def answered (p : Provider) (i : Identity) : Option (List String) :=
  if p.enabled then (p.grants i.entry i.definition.groupAttribute).toOption else none

theorem answered_eq_some_iff {roles : List String} :
    answered p i = some roles ↔ Granted p i roles := by
  unfold answered Granted
  cases p.enabled with
  | false => simp
  | true => cases p.grants i.entry i.definition.groupAttribute <;> simp [Except.toOption]

theorem eq_answered_iff :
    grants = answered p i ↔ ∀ roles, grants = some roles ↔ Granted p i roles := by
  simp only [← answered_eq_some_iff]
  exact Option.ext_iff

theorem authorize_of_not_demanded (h : c.excludeIfNoAuthorizations = false) :
    authorize c p i = .ok (answered p i) := by
  unfold authorize lookupGrants checkGrants answered
  cases p.enabled with
  | false => simp [h, bind, Except.bind]
  | true =>
    cases p.grants i.entry i.definition.groupAttribute with
    | error e => simp [h, bind, Except.bind, Except.toOption]
    | ok roles => simp [h, bind, Except.bind, Except.toOption]

theorem authorize_of_demanded (h : c.excludeIfNoAuthorizations = true) :
    authorize c p i =
      if p.enabled then
        match p.grants i.entry i.definition.groupAttribute with
        | .error e => .error e
        | .ok [] => .error (.disallowed .noAuthorizations)
        | .ok (role :: roles) => .ok (some (role :: roles))
      else .error (.misconfigured .noProvider) := by
  unfold authorize lookupGrants checkGrants
  cases he : p.enabled with
  | false => simp [h, bind, Except.bind]
  | true =>
    cases hg : p.grants i.entry i.definition.groupAttribute with
    | error e => simp [h, bind, Except.bind]
    | ok roles => cases roles <;> simp [h, bind, Except.bind]

theorem authorize_eq_ok_iff (rs : List Rule) :
    authorize c p i = .ok grants ↔
      Check.authorizations.Passed c p rs i ∧ grants = answered p i := by
  cases hx : c.excludeIfNoAuthorizations with
  | false =>
    rw [authorize_of_not_demanded hx]
    simp [Check.Passed, hx, eq_comm]
  | true =>
    rw [authorize_of_demanded hx]
    unfold Check.Passed Granted answered
    cases he : p.enabled with
    | false => simp [hx]
    | true =>
      cases hg : p.grants i.entry i.definition.groupAttribute with
      | error e => simp [hx]
      | ok roles => cases roles <;> simp [hx, Except.toOption, eq_comm]

theorem authorize_eq_error_iff (rs : List Rule) :
    authorize c p i = .error f ↔ Check.authorizations.Failed c p rs i f := by
  constructor
  · intro h
    cases hx : c.excludeIfNoAuthorizations with
    | false =>
      rw [authorize_of_not_demanded hx] at h
      cases h
    | true =>
      rw [authorize_of_demanded hx] at h
      split at h
      · rename_i he
        split at h
        · rename_i e hg
          cases h
          exact .lookupFailed f hx he hg
        · rename_i hg
          cases h
          exact .noAuthorizations hx ⟨he, hg⟩
        · cases h
      · rename_i he
        cases h
        exact .noProvider hx (by simpa using he)
  · intro h
    cases h with
    | noProvider hx he => simp [authorize_of_demanded hx, he]
    | lookupFailed _ hx he hg => simp [authorize_of_demanded hx, he, hg]
    | noAuthorizations hx hg => simp [authorize_of_demanded hx, hg.1, hg.2]

/-! ## All checks -/

theorem evaluate_eq (c : Authentication) (p : Provider) (rs : List Rule) (i : Identity) :
    evaluate c p rs i =
      (checkAllowList c i.entry >>= fun _ => checkDenyList c i.entry >>= fun _ =>
        checkPredicate c i >>= fun _ => checkRules i rs >>= fun _ => authorize c p i) := rfl

theorem evaluate_eq_ok_iff :
    evaluate c p rs i = .ok grants ↔
      (∀ k : Check, k.Passed c p rs i) ∧ grants = answered p i := by
  simp only [evaluate_eq, bind_eq_ok_iff, Unique.exists_iff, checkAllowList_eq_ok_iff p rs,
    checkDenyList_eq_ok_iff p rs, checkPredicate_eq_ok_iff p rs, checkRules_eq_ok_iff c p,
    authorize_eq_ok_iff rs, Check.forall_iff, and_assoc]

theorem evaluate_eq_error_iff :
    evaluate c p rs i = .error f ↔
      ∃ k : Check, k.Failed c p rs i f ∧ ∀ j : Check, j.place < k.place → j.Passed c p rs i := by
  simp only [evaluate_eq, bind_eq_error_iff, Unique.exists_iff, checkAllowList_eq_ok_iff p rs,
    checkDenyList_eq_ok_iff p rs, checkPredicate_eq_ok_iff p rs, checkRules_eq_ok_iff c p,
    checkAllowList_eq_error_iff p rs, checkDenyList_eq_error_iff p rs,
    checkPredicate_eq_error_iff p rs, checkRules_eq_error_iff c p, authorize_eq_error_iff rs]
  simp only [Check.exists_iff, Check.forall_iff, Check.place]
  grind

/-- The gate admits an identity just when it passes all checks, and then tells the roles of a
provider that is enabled and answered. Otherwise it tells the failure of the first check that the
identity does not pass. -/
theorem gate_exact (c : Authentication) (p : Provider) (rs : List Rule) (i : Identity) :
    ((∃ grants, evaluate c p rs i = .ok grants) ↔ ∀ k : Check, k.Passed c p rs i) ∧
      (∀ grants, evaluate c p rs i = .ok grants ↔
        (∀ k : Check, k.Passed c p rs i) ∧
          ∀ roles, grants = some roles ↔ Granted p i roles) ∧
      ∀ f, evaluate c p rs i = .error f ↔
        ∃ k : Check, k.Failed c p rs i f ∧
          ∀ j : Check, j.place < k.place → j.Passed c p rs i := by
  refine ⟨?_, fun grants => ?_, fun f => evaluate_eq_error_iff⟩
  · simp only [evaluate_eq_ok_iff, exists_and_left, exists_eq, and_true]
  · rw [evaluate_eq_ok_iff, eq_answered_iff]

end DirectoryLogin.Policy
