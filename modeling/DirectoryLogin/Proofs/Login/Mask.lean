import DirectoryLogin.Login.Attempt
import DirectoryLogin.Proofs.Account.Mask

/-!
# Logins over other hashes

The directory decides a login without a look at the hashes of the store. So under a `Mask` it
decides the same, and leaves the same store, masked.

* `map_follows`, `approve_follows`: an identity gets the same account;
* `approveResolved_store`, `withDirectoryPassword_store`: so does the person whom a search finds.
-/

namespace DirectoryLogin.Mask

open Settings (Authentication)
open Store (Script)
open Time (Instant)

variable (mask : Mask)

/-! ## From an identity to an account -/

section Mapping

open Mapping (Terms)

variable (t : Terms) (mail : Option String) (a : Account)

theorem touch_follows (now : Instant) :
    mask.Follows mask.account (Mapping.touch a now) (Mapping.touch (mask.account a) now) := by
  refine .bind (f := id) (.ask Failure.store fun s => ?_) fun _ => .pure _
  exact congrArg (Prod.mk _) (mask.modify_store s a.uid fun _ => rfl)

theorem refreshMail_follows :
    mask.Follows mask.account (Mapping.refreshMail t mail a)
      (Mapping.refreshMail t mail (mask.account a)) := by
  have same : (mask.account a).mail = a.mail := rfl
  unfold Mapping.refreshMail
  rw [same]
  split
  · split
    · exact .pure a
    · refine .bind (f := id) (.ask Failure.store fun s => ?_) fun _ => .pure _
      exact congrArg (Prod.mk _) (mask.modify_store s a.uid fun _ => rfl)
  · exact .pure a

theorem refreshRoles_follows :
    mask.Follows mask.account (Mapping.refreshRoles t a)
      (Mapping.refreshRoles t (mask.account a)) := by
  have same : (mask.account a).roles = a.roles := rfl
  unfold Mapping.refreshRoles
  rw [same]
  split
  · refine .bind (f := id) (.ask Failure.store fun s => ?_) fun _ => .pure _
    exact congrArg (Prod.mk _) (mask.modify_store s a.uid fun _ => rfl)
  · exact .pure a

theorem refresh_follows :
    mask.Follows mask.account (Mapping.refresh t mail a)
      (Mapping.refresh t mail (mask.account a)) := by
  have same : (mask.account a).status = a.status := rfl
  unfold Mapping.refresh
  rw [same]
  split
  · exact .fail _
  · refine (mask.refreshMail_follows t mail a).bind fun a => ?_
    exact (mask.refreshRoles_follows t a).bind fun a => mask.touch_follows a t.now

theorem associate_follows (authname : String) :
    mask.Follows mask.account (Mapping.associate t authname mail a)
      (Mapping.associate t authname mail (mask.account a)) := by
  have bypasses : (mask.account a).bypassesDirectory = a.bypassesDirectory := rfl
  unfold Mapping.associate
  rw [bypasses]
  split
  · exact .fail _
  · refine .bind (f := id) (.ask Failure.store fun s => rfl) fun link => ?_
    cases link with
    | some m => exact .fail _
    | none =>
      dsimp only [id]
      split
      · exact .fail _
      · refine .bind (f := id) (.ask Failure.store fun s => ?_) fun _ =>
          mask.refresh_follows t mail a
        exact mask.createAuthmap_store s _ _ _

theorem provision_follows (authname name : String) :
    mask.Follows mask.account (Mapping.provision t authname mail name)
      (Mapping.provision t authname mail name) := by
  refine .bind (f := mask.account) (.ask Failure.store fun s => ?_) fun a =>
    mask.touch_follows a t.now
  exact mask.provisionAccount_store rfl s _ _ _

/-- The two identities are the same as far as their accounts go. -/
structure SameAccount (c : Authentication) (i i' : Identity) : Prop where
  mail : Mapping.mailFor c i' = Mapping.mailFor c i
  authname : i'.authname = i.authname
  accountName : i'.accountName = i.accountName

theorem SameAccount.refl (c : Authentication) (i : Identity) : SameAccount c i i :=
  ⟨rfl, rfl, rfl⟩

/-- An account that an identity got, masked. -/
def mapped (m : Mapped) : Mapped := { m with account := mask.account m.account }

theorem map_follows {i i' : Identity} (h : SameAccount t.settings i i') :
    mask.Follows mask.mapped (Mapping.map t i) (Mapping.map t i') := by
  unfold Mapping.map
  rw [h.mail, h.authname, h.accountName]
  refine .bind (f := Option.map mask.account) (.ask Failure.store fun s => ?_) fun linked => ?_
  · exact congrArg (·, _) (mask.accountByAuthname_store s _ _)
  · cases linked with
    | some a => exact (mask.refresh_follows t _ a).bind fun a => .pure _
    | none =>
      refine .bind (f := Option.map mask.account) (.ask Failure.store fun s => ?_)
        fun existing => ?_
      · exact congrArg (·, _) (mask.accountByName_store s _)
      · cases existing with
        | some a => exact (mask.associate_follows t _ a _).bind fun a => .pure _
        | none =>
          dsimp only [Option.map_none]
          split
          · exact .fail _
          · exact (mask.provision_follows t _ _ _).bind fun a => .pure _

end Mapping

/-! ## Logins -/

def outcome (o : Outcome) : Outcome := { o with account := mask.account o.account }

/-- What a login leaves behind, masked. -/
def attempt (a : Attempt) : Attempt :=
  ⟨a.result.map mask.outcome, mask.store a.store, a.questions⟩

/-- The gate decides before the store is asked. -/
theorem approve_follows {r r' : Realm} {c : Authentication} {i i' : Identity}
    (admitted : Policy.evaluate c r'.provider r'.rules i' = Policy.evaluate c r.provider r.rules i)
    (same : SameAccount c i i') (now : Instant) (method : LoginMethod) (s : Store) :
    Login.approve r' c now i' method (mask.store s) =
      ((Login.approve r c now i method s).1.map mask.outcome,
        mask.store (Login.approve r c now i method s).2) := by
  unfold Login.approve
  rw [admitted]
  cases Policy.evaluate c r.provider r.rules i with
  | error f => rfl
  | ok grants =>
    have follows := mask.map_follows (Login.terms c now grants) same s
    dsimp only
    rw [follows]
    rcases (Mapping.map (Login.terms c now grants) i).run s with ⟨f | mapped, s'⟩ <;> rfl

theorem approveResolved_store (r : Realm) (c : Authentication) (now : Instant)
    (found : Resolution) (method : String → LoginMethod) (s : Store) :
    Login.approveResolved r c now found method (mask.store s) =
      mask.attempt (Login.approveResolved r c now found method s) := by
  obtain ⟨result, questions⟩ := found
  cases result with
  | error f => rfl
  | ok i =>
    have approved := mask.approve_follows (r := r) rfl (.refl c i) now (method i.sid) s
    exact congrArg (fun x => (⟨x.1, x.2, questions⟩ : Attempt)) approved

theorem withDirectoryPassword_store (r : Realm) (c : Authentication) (now : Instant)
    (name password : String) (s : Store) :
    Login.withDirectoryPassword r c now name password (mask.store s) =
      mask.attempt (Login.withDirectoryPassword r c now name password s) :=
  mask.approveResolved_store r c now _ _ s

end DirectoryLogin.Mask
