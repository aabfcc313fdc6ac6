import DirectoryLogin.Proofs.Http.Disguise
import DirectoryLogin.Proofs.Http.OwnerOnly
import Mathlib.Data.List.Forall2
import Mathlib.Data.Quot

/-!
# Stored secrets do not influence responses

Two portals are alike if they differ in their stored secrets only: in the texts of hashes that
accept the same passwords, and in the passwords of service accounts that are empty at both or at
neither. The same requests get the same responses from both, and leave them alike.

* `Portal.Alike` and `State.Alike`: what two portals, and their states, may differ in;
* `Disguise.uniform`: in this disguise what is alike becomes the same;
* `handle_alike`: one request;
* `secrets_do_not_show`: the exchanges of two runs, one by one.
-/

namespace DirectoryLogin

/-! ## Alike -/

/-- The accounts differ at most in the texts of their hashes. -/
structure Account.Alike (a b : Account) : Prop where
  rest : { a with passHash := none } = { b with passHash := none }
  present : a.passHash.isSome = b.passHash.isSome
  accepts : ∀ password, a.acceptsPassword password = b.acceptsPassword password

/-- The definitions differ at most in the password of the service account. -/
structure ServerDefinition.Alike (x y : ServerDefinition) : Prop where
  rest : { x with bindPassword := "" } = { y with bindPassword := "" }
  empty : x.bindPassword.isEmpty = y.bindPassword.isEmpty

/-- The directories have definitions that are alike, and give the same answers. -/
structure Directory.Alike (x y : Directory) : Prop where
  definition : x.definition.Alike y.definition
  rest : { x with definition := y.definition } = y

structure Store.Alike (s t : Store) : Prop where
  accounts : List.Forall₂ Account.Alike s.accounts t.accounts
  rest : { s with accounts := t.accounts } = t

/-- A tree gives the same answers whatever the password of its service account is. -/
theorem Tree.toDirectory_alike {t : Tree} {definition : ServerDefinition}
    (h : t.definition.Alike definition) :
    t.toDirectory.Alike (Tree.toDirectory { t with definition }) := by
  refine ⟨h, ?_⟩
  have same : definition = { t.definition with bindPassword := definition.bindPassword } :=
    congrArg (fun x : ServerDefinition => { x with bindPassword := definition.bindPassword })
      h.rest.symm
  rw [same]
  rfl

namespace Http

namespace Portal

/-- The portals differ at most in passwords of service accounts. -/
structure Alike (p q : Portal) : Prop where
  servers : List.Forall₂ ServerDefinition.Alike p.site.servers q.site.servers
  directories : List.Forall₂ Directory.Alike p.realm.registry.directories
    q.realm.registry.directories
  rest : { p with
    site := { p.site with servers := q.site.servers }
    realm := { p.realm with registry := q.realm.registry } } = q

/-- The states differ at most in texts of hashes. -/
structure State.Alike (s t : State) : Prop where
  store : s.service.store.Alike t.service.store
  rest : { s with service := { s.service with store := t.service.store } } = t

end Portal

/-- The same response and the same questions, and states that are alike. -/
structure Exchange.Alike (e f : Exchange) : Prop where
  response : e.response = f.response
  questions : e.questions = f.questions
  state : e.state.Alike f.state

end Http

/-! ## The uniform disguise -/

/-- Texts of hashes that accept the same passwords. -/
def sameUse : Setoid String where
  r text text' := ∀ password, passwordAccepted text password = passwordAccepted text' password
  iseqv := ⟨fun _ _ => rfl, fun h w => (h w).symm, fun h h' w => (h w).trans (h' w)⟩

namespace Disguise

/-- Secrets of the same use become one and the same. -/
noncomputable def uniform : Disguise where
  hash text := (Quotient.mk sameUse text).out
  accepts text := Quotient.mk_out (s := sameUse) text
  bindPassword password := if password.isEmpty then "" else "*"
  isEmpty password := by cases password.isEmpty <;> rfl

theorem uniform_account_eq_iff {a b : Account} :
    uniform.account a = uniform.account b ↔ a.Alike b := by
  constructor
  · intro h
    refine ⟨congrArg (fun x : Account => { x with passHash := none }) h, ?_, fun password => ?_⟩
    · have present := congrArg (·.passHash.isSome) h
      rwa [account, account, Option.isSome_map, Option.isSome_map] at present
    · rw [← acceptsPassword_account, h, acceptsPassword_account]
  · intro h
    obtain ⟨rest, present, accepts⟩ := h
    have same : b = { a with passHash := b.passHash } :=
      congrArg (fun x : Account => { x with passHash := b.passHash }) rest.symm
    have hash : a.passHash.map uniform.hash = b.passHash.map uniform.hash := by
      unfold Account.acceptsPassword at accepts
      cases ha : a.passHash with
      | none =>
        cases hb : b.passHash with
        | none => rfl
        | some text' => simp [ha, hb] at present
      | some text =>
        cases hb : b.passHash with
        | none => simp [ha, hb] at present
        | some text' =>
          rw [ha, hb] at accepts
          exact congrArg (some ∘ Quotient.out) (Quotient.sound accepts)
    rw [same, account, account, hash]

theorem uniform_definition {x y : ServerDefinition} (h : x.Alike y) :
    uniform.definition x = uniform.definition y := by
  have same : y = { x with bindPassword := y.bindPassword } :=
    congrArg (fun z : ServerDefinition => { z with bindPassword := y.bindPassword }) h.rest.symm
  have bindPassword : uniform.bindPassword x.bindPassword = uniform.bindPassword y.bindPassword := by
    simp only [uniform, h.empty]
  rw [same, definition, definition, bindPassword]

theorem uniform_directory {x y : Directory} (h : x.Alike y) :
    uniform.directory x = uniform.directory y := by
  rw [← h.rest, directory, directory, uniform_definition h.definition]

theorem map_eq_of_forall₂ {α β : Type} {R : α → α → Prop} {f : α → β} {xs ys : List α}
    (hs : List.Forall₂ R xs ys) (h : ∀ x y, R x y → f x = f y) : xs.map f = ys.map f := by
  rw [← List.forall₂_eq_eq_eq]
  exact List.rel_map h hs

open Http Http.Portal

theorem uniform_portal {p q : Portal} (h : p.Alike q) : uniform.portal p = uniform.portal q := by
  have servers := map_eq_of_forall₂ h.servers fun _ _ => uniform_definition
  have directories := map_eq_of_forall₂ h.directories fun _ _ => uniform_directory
  rw [← h.rest]
  simp only [portal, site, realm, registry, servers, directories]

theorem uniform_state_eq_iff {s t : State} : uniform.state s = uniform.state t ↔ s.Alike t := by
  constructor
  · intro h
    have accounts : s.service.store.accounts.map uniform.account =
        t.service.store.accounts.map uniform.account :=
      congrArg (·.service.store.accounts) h
    rw [← List.forall₂_eq_eq_eq, List.forall₂_map_left_iff, List.forall₂_map_right_iff] at accounts
    refine ⟨⟨accounts.imp fun _ _ => uniform_account_eq_iff.mp, ?_⟩, ?_⟩
    · exact congrArg (fun x : State => { x.service.store with
        accounts := t.service.store.accounts }) h
    · exact congrArg (fun x : State => { x with
        service := { x.service with store := t.service.store } }) h
  · intro h
    have accounts := map_eq_of_forall₂ h.store.accounts fun _ _ => uniform_account_eq_iff.mpr
    rw [← h.rest, ← h.store.rest]
    simp only [state, service, store, accounts]

end Disguise

/-! ## Requests -/

namespace Http.Portal

variable {p q : Portal} {s t : State}

/-- One request, to two portals that are alike. -/
theorem handle_alike (hp : p.Alike q) (hs : s.Alike t) (m : Moment) (r : Request) :
    (p.handle m r s).Alike (q.handle m r t) := by
  have disguised : Disguise.uniform.exchange (p.handle m r s) =
      Disguise.uniform.exchange (q.handle m r t) := by
    rw [← Disguise.handle_portal, ← Disguise.handle_portal, Disguise.uniform_portal hp,
      Disguise.uniform_state_eq_iff.mpr hs]
  -- The disguise leaves responses and questions as they are.
  have response := congrArg Exchange.response disguised
  have questions := congrArg Exchange.questions disguised
  have state := congrArg Exchange.state disguised
  exact ⟨response, questions, Disguise.uniform_state_eq_iff.mp state⟩

/-- The exchanges of requests that are answered one after the other. -/
def State.exchanges (s : State) : List (Portal × Moment × Request) → List Exchange
  | [] => []
  | (p, m, r) :: rest => p.handle m r s :: (p.handle m r s).state.exchanges rest

/-- The same request at the same moment, to portals that are alike. -/
def SameRequest (x y : Portal × Moment × Request) : Prop := x.1.Alike y.1 ∧ x.2 = y.2

/-- Portals that differ in stored secrets only give the same responses to the same requests, one
after the other, and stay alike. -/
theorem secrets_do_not_show (hs : s.Alike t) {requests requests' : List (Portal × Moment × Request)}
    (h : List.Forall₂ SameRequest requests requests') :
    List.Forall₂ Exchange.Alike (s.exchanges requests) (t.exchanges requests') := by
  induction h generalizing s t with
  | nil => exact .nil
  | @cons x y rest rest' same _ ih =>
    obtain ⟨p, m, r⟩ := x
    obtain ⟨q, m', r'⟩ := y
    obtain ⟨hp, hmr⟩ := same
    cases hmr
    have step := handle_alike hp hs m r
    exact .cons step (ih step.state)

end Http.Portal

/-! ## Other secrets at the sample site -/

open Http Http.Portal

namespace Sample

/-- The hash of the owner's password without its version. -/
def otherHash : String := (PasswordHash.ofPassword "secret" salt).unversioned.text

/-- The site of the owner with the other hash. -/
def rehashedState : State :=
  { ownedState with
    service := { owned "secret" with
      store := { (owned "secret").store with
        accounts := [{ owner "secret" with passHash := some otherHash }] } } }

/-- The sample server with a password for its service account. -/
def guardedTree (password : String) : Tree :=
  { tree with definition := { tree.definition with bindPassword := password } }

/-- The site of the owner with that server. -/
def guardedPortal (password : String) : Portal :=
  ⟨{ ownedSite with servers := [(guardedTree password).definition] },
    ⟨.ofList [(guardedTree password).toDirectory], .none, []⟩, now, false⟩

/-- The owner looks at a page. -/
def ownersVisit (path : String) : Request :=
  ⟨"GET", ⟨path, none⟩, [("authorization", "Basic YWRtaW46c2VjcmV0")], ""⟩

/-- The owner looks at the servers and at the accounts, and logs in. -/
def ownersRequests (bindPassword : String) : List (Portal × Moment × Request) :=
  [ownersVisit "/api/v1/servers", ownersVisit "/api/v1/accounts",
    ⟨"POST", ⟨"/user/login", none⟩, [], "name=admin&pass=secret"⟩].map fun r =>
      (guardedPortal bindPassword, moment, r)

end Sample

theorem sample_hash_changed : Service.hashOf Sample.salt "secret" ≠ Sample.otherHash := by
  intro h
  have storable : PasswordHash.Storable Sample.salt := ⟨by decide, by decide⟩
  have read := congrArg PasswordHash.read? h
  rw [Service.hashOf, PasswordHash.read?_text_ofPassword storable, Sample.otherHash,
    PasswordHash.read?_text_unversioned storable] at read
  have version := congrArg (·.map PasswordHash.version) read
  cases version

theorem sample_states_alike : Sample.ownedState.Alike Sample.rehashedState := by
  have same : (Sample.owner "secret").Alike
      { Sample.owner "secret" with passHash := some Sample.otherHash } := by
    have storable : PasswordHash.Storable Sample.salt := ⟨by decide, by decide⟩
    have hash : (Sample.owner "secret").passHash = some (Service.hashOf Sample.salt "secret") := rfl
    refine ⟨rfl, rfl, fun password => ?_⟩
    rw [Account.acceptsPassword, Account.acceptsPassword, hash]
    exact (PasswordHash.passwordAccepted_unversioned storable "secret" password).symm
  exact ⟨⟨.cons same .nil, rfl⟩, rfl⟩

theorem sample_portals_alike : (Sample.guardedPortal "first").Alike (Sample.guardedPortal "second") := by
  have definition : (Sample.guardedTree "first").definition.Alike
      (Sample.guardedTree "second").definition := ⟨rfl, by decide⟩
  exact ⟨.cons definition .nil, .cons (Tree.toDirectory_alike definition) .nil, rfl⟩

/-- The owner, whom both sites let in, cannot tell which of them holds which secrets. -/
theorem sample_secrets_do_not_show :
    Sample.ownedState ≠ Sample.rehashedState ∧ Sample.ownedState.Alike Sample.rehashedState ∧
      List.Forall₂ SameRequest (Sample.ownersRequests "first") (Sample.ownersRequests "second") ∧
      (∀ path, FromOwner (Sample.ownersVisit path) Sample.ownedState.service) ∧
      List.Forall₂ Exchange.Alike (Sample.ownedState.exchanges (Sample.ownersRequests "first"))
        (Sample.rehashedState.exchanges (Sample.ownersRequests "second")) := by
  have requests : List.Forall₂ SameRequest (Sample.ownersRequests "first")
      (Sample.ownersRequests "second") := by
    have same (x : Moment × Request) : SameRequest (Sample.guardedPortal "first", x)
        (Sample.guardedPortal "second", x) := ⟨sample_portals_alike, rfl⟩
    exact .cons (same _) (.cons (same _) (.cons (same _) .nil))
  refine ⟨fun h => ?_, sample_states_alike, requests, fun path => ?_,
    secrets_do_not_show sample_states_alike requests⟩
  · have hashes := congrArg (·.service.store.accounts.map Account.passHash) h
    exact sample_hash_changed (Option.some.inj (List.cons.inj hashes).1)
  · have basic : (Sample.ownersVisit "/").basicCredentials = some ("admin", "secret") := by
      decide +kernel
    exact ⟨"admin", "secret", Sample.owner "secret", basic,
      Service.verifySiteOwner_eq_ok_iff.mpr (owned_credentials "secret")⟩

end DirectoryLogin
