import DirectoryLogin.Proofs.Login.Admission
import DirectoryLogin.Proofs.Login.History

/-!
# Accounts excluded from the directory

An excluded account is not linked to a directory identity. One that was linked before it was
excluded keeps its link, though, and the link still leads to it.

* `SparesExcluded`: a request reaches no excluded account through a directory;
* `sparesExcluded_iff`: a request spares them just when no link leads it to an active one.
-/

namespace DirectoryLogin.Service

open Settings (Authentication)
open Time (Instant)

variable {s : Service} {r : Realm} {now : Instant} {q : LoginRequest} {i : Identity} {o : Outcome}
  {a : Account} {grants : Option (List String)}

/-- If the request logs in by anything but a local password, the account was not excluded. -/
def SparesExcluded (s : Service) (r : Realm) (now : Instant) (q : LoginRequest) : Prop :=
  ∀ o, (q.attempt r s.live now s.store).result = .ok o → o.method ≠ .localPassword →
    ∀ a ∈ s.store.accounts, a.uid = o.account.uid → a.ldapExcluded = false

/-- A directory finds an identity, the gate admits it, and it is linked to an account that is
excluded and active. -/
def LedToExcluded (s : Service) (r : Realm) (q : LoginRequest) : Prop :=
  ∃ i grants a, q.identity? r s.live s.store = some i ∧
    Policy.evaluate s.live r.provider r.rules i = .ok grants ∧
    s.store.accountByAuthname directoryModule i.authname = .ok (some a) ∧
    a.ldapExcluded = true ∧ a.status = .active

/-- A link leads to its account, excluded or not. -/
theorem not_sparesExcluded (h : LedToExcluded s r q) (now : Instant) :
    ¬ SparesExcluded s r now q := by
  obtain ⟨i, grants, a, hi, hg, hl, hx, hs⟩ := h
  obtain ⟨o, ho, hacc, hm⟩ := LoginRequest.attempt_eq_ok hi hg (Mapping.run_map_linked hl hs)
  obtain ⟨-, -, -, ha, -⟩ := Store.accountByAuthname_eq_some hl
  intro hspare
  have hfalse := hspare o ho hm a ha (by rw [hacc]; rfl)
  rw [hx] at hfalse
  cases hfalse

/-- An approved login that is not led to an excluded account by a link does not reach one. -/
theorem approved_spares (h : s.store.WellFormed) (hlink : ¬ LedToExcluded s r q) {s' : Store}
    (happ : LoginRequest.Approved r s.live now s.store q i grants o s') (ha : a ∈ s.store.accounts)
    (hu : a.uid = o.account.uid) : a.ldapExcluded = false := by
  have hend := happ.ending
  obtain ⟨account, method, provisioned, messages⟩ := o
  cases hend with
  | linked b hl hs =>
    obtain ⟨-, -, -, hb, -⟩ := Store.accountByAuthname_eq_some hl
    obtain rfl := h.eq_of_uid ha hb hu
    by_contra hx
    exact hlink ⟨i, grants, a, happ.identified, happ.admitted, hl, by simpa using hx, hs⟩
  | associated b hb hl hs =>
    obtain rfl := h.eq_of_uid ha (Store.accountByName_eq_some hb.named).1 hu
    have hopen := hb.open_
    rw [Account.bypassesDirectory, Bool.or_eq_false_iff] at hopen
    exact hopen.2
  | provisioned hc hn hl =>
    have := h.uid_le a ha
    have hnew : a.uid = s.store.lastUid + 1 := hu
    omega

/-- A request spares the excluded accounts just when no link leads it to an active one. -/
theorem sparesExcluded_iff (h : Reachable s) (r : Realm) (now : Instant) (q : LoginRequest) :
    SparesExcluded s r now q ↔ ¬ LedToExcluded s r q := by
  constructor
  · intro hspare hlink
    exact not_sparesExcluded hlink now hspare
  · intro hlink o ho hm a ha hu
    obtain ⟨i, grants, happ⟩ := LoginRequest.attempt_approved ho hm
    exact approved_spares h.wellFormed hlink happ ha hu

/-- Nobody is excluded, or linked, at the start. -/
theorem start_sparesExcluded : Reachable (start Sample.settings) ∧
    SparesExcluded (start Sample.settings) Sample.realm Sample.now
      (.singleSignOn Sample.visit) := by
  refine ⟨.start _, (sparesExcluded_iff (.start _) _ _ _).mpr ?_⟩
  rintro ⟨i, grants, a, -, -, hl, -⟩
  cases hl

/-- The sample service after the person has logged in once and was excluded then. -/
def afterExclusion : Service :=
  let s := (start Sample.settings).step
    ⟨Sample.realm, Sample.now, .login (.singleSignOn Sample.visit)⟩
  { s with store := (s.store.perform (.setLdapExcluded 2 true)).2 }

/-- The exclusion does not keep the person out. -/
theorem excluded_account_logs_in : Reachable afterExclusion ∧
    ∃ o, (afterExclusion.ssoLogin Sample.realm Sample.now Sample.visit).result = .ok o ∧
      o.method = .singleSignOn "hogwarts" ∧ o.account.uid = 2 ∧
      ∃ a ∈ afterExclusion.store.accounts, a.uid = 2 ∧ a.ldapExcluded = true := by
  have hlogin : (afterExclusion.ssoLogin Sample.realm Sample.now
      Sample.visit).result.toOption.map (fun o => (o.method, o.account.uid)) =
        some (.singleSignOn "hogwarts", 2) := by
    decide +kernel
  have hflag : ∃ a ∈ afterExclusion.store.accounts, a.uid = 2 ∧ a.ldapExcluded = true := by
    decide +kernel
  obtain ⟨o, ho, hpair⟩ := Option.map_eq_some_iff.mp hlogin
  obtain ⟨hm, hu⟩ := Prod.mk.inj hpair
  exact ⟨.call _ _ (.turn _ _ (.start _)), o, toOption_eq_some_iff.mp ho, hm, hu, hflag⟩

end DirectoryLogin.Service
