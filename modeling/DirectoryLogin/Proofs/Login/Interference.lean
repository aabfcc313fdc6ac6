import DirectoryLogin.Proofs.Account.Interleaving
import DirectoryLogin.Proofs.Login.Mapping

/-!
# Mappings among other mappings

Between two calls of a mapping others may write to the store, so what the mapping has read can be
out of date when it writes. An invariant that outlives each single write, with nothing more known
than what was read before, outlives any number of mappings at once.

* `Seen`: what a mapping knows when it is about to link an account;
* `Robust`: an invariant outlives the writes of a mapping;
* `map_upholds`: then a mapping upholds it, ends with the account that its identity is linked to,
  or else is refused (`Settled`);
* `map_callsAtMost`: a mapping makes at most seven calls;
* `race_upheld`, `race_done`: the same for several mappings that take turns.
-/

namespace DirectoryLogin.Mapping

open Store (Script Grows)
open Store.Script (upholds_bind upholds_ask_bind upholds_pure upholds_fail callsAtMost_bind
  callsAtMost_mono)
open Time (Instant)

variable {t : Terms} {i : Identity} {s : Store} {a : Account} {mail : Option String}
  {calm : Prop} {inv : Store → Prop}

/-! ## Invariants -/

/-- A change that a mapping makes to the account of its identity. -/
structure Light (t : Terms) (change : Account → Account) : Prop where
  uid : ∀ a, (change a).uid = a.uid
  name : ∀ a, (change a).name = a.name
  createdAt : ∀ a, (change a).createdAt = a.createdAt
  lastLogin : ∀ a, (change a).lastLogin = a.lastLogin ∨ (change a).lastLogin = some t.now

/-- What a mapping has seen on its way to the store `s`, and what may no longer be so: the identity
without a link, the account under its name, and then that account without a link. -/
structure Seen (t : Terms) (i : Identity) (inv : Store → Prop) (s : Store) (a : Account) : Prop where
  unlinked : ∃ s₁, inv s₁ ∧ Grows s₁ s ∧ s₁.accountByAuthname directoryModule i.authname = .ok none
  named : ∃ s₂ s₃, inv s₂ ∧ inv s₃ ∧ Grows s₂ s₃ ∧ Grows s₃ s ∧
    s₂.accountByName i.accountName = .ok (some a) ∧ s₃.authmap a.uid directoryModule = none
  open_ : a.bypassesDirectory = false
  allowed : t.settings.existingAccount = .associate

/-- The invariant outlives every write of a mapping. Where all is calm, the accounts of a store with
the invariant can be read, and so can the clock. -/
structure Robust (t : Terms) (i : Identity) (calm : Prop) (inv : Store → Prop) : Prop where
  updated : ∀ {s m change}, inv s → m ∈ s.authmaps → m.module = directoryModule →
    Light t change → inv (s.modify m.uid change)
  linked : ∀ {s a}, inv s → Seen t i inv s a → s.link? directoryModule i.authname = none →
    (∃ b ∈ s.accounts, b.uid = a.uid) → inv (withLink s i a)
  provisioned : ∀ {s}, inv s → s.nameTaken i.accountName = false →
    s.link? directoryModule i.authname = none → inv (withNewcomer t i s)
  readable : calm → ∀ {s}, inv s → ∀ a ∈ s.accounts, Store.readAccount a = .ok a
  clock : calm → Time.fourDigitYear t.now = true

/-! ## Endings -/

/-- The identity is linked to the account of a uid. -/
def Owns (i : Identity) (s : Store) (uid : Int) : Prop :=
  ∃ l, s.link? directoryModule i.authname = some l ∧ l.uid = uid

/-- The failures of a mapping. The database itself fails only where not all is calm. -/
def Refused (calm : Prop) (f : Failure) : Prop :=
  f.kind = .provisioningError ∨ f.kind = .userDisallowed ∨ f.kind = .databaseError ∧ ¬ calm

/-- A mapping ends with the account that its identity is linked to, or it is refused. -/
def Settled {α : Type} (calm : Prop) (i : Identity) (uid : α → Int) :
    Except Failure α → Store → Prop
  | .ok a, s => Owns i s (uid a)
  | .error f, _ => Refused calm f

theorem Owns.grows {s' : Store} {uid : Int} (h : Owns i s uid) (hs : Grows s s') : Owns i s' uid := by
  obtain ⟨l, hl, hu⟩ := h
  exact ⟨l, hs.link? hl, hu⟩

theorem Owns.mem {uid : Int} (h : Owns i s uid) :
    ∃ m ∈ s.authmaps, m.module = directoryModule ∧ m.uid = uid := by
  obtain ⟨l, hl, hu⟩ := h
  obtain ⟨hmem, hmodule, -⟩ := Store.link?_eq_some hl
  exact ⟨l, hmem, hmodule, hu⟩

theorem owns_of_read (h : s.accountByAuthname directoryModule i.authname = .ok (some a)) :
    Owns i s a.uid := by
  obtain ⟨l, hl, -, -, hu⟩ := Store.accountByAuthname_eq_some h
  exact ⟨l, hl, hu.symm⟩

theorem Robust.refused_of_unreadable (h : Robust t i calm inv) (hinv : inv s) {e : StoreError}
    (hread : ∃ a ∈ s.accounts, Store.readAccount a = .error e) : Refused calm (.store e) := by
  obtain ⟨a, ha, he⟩ := hread
  obtain ⟨at_, rfl⟩ := Store.readAccount_eq_error he
  refine .inr (.inr ⟨rfl, fun hcalm => ?_⟩)
  rw [h.readable hcalm hinv a ha] at he
  cases he

theorem refused_linkError {uid : Int} {e : StoreError} (hu : ∃ b ∈ s.accounts, b.uid = uid)
    (he : (s.createAuthmap uid directoryModule i.authname).1 = .error e) :
    Refused calm (.store e) := by
  rcases Store.createAuthmap_eq_error he with rfl | ⟨-, hmissing⟩
  · exact .inl rfl
  · obtain ⟨b, hb, hbu⟩ := hu
    exact absurd hbu (hmissing b hb)

theorem Robust.refused_provisionError (h : Robust t i calm inv) {e : StoreError}
    (he : (s.provisionAccount (fresh t i) directoryModule i.authname t.now).1 = .error e) :
    Refused calm (.store e) := by
  rcases Store.provisionAccount_eq_error he with rfl | rfl | hread
  · exact .inl rfl
  · exact .inl rfl
  · obtain ⟨at_, rfl⟩ := Store.readAccount_eq_error hread
    refine .inr (.inr ⟨rfl, fun hcalm => ?_⟩)
    have hok : Store.readAccount (s.nextAccount (fresh t i) false t.now) =
        .ok (s.nextAccount (fresh t i) false t.now) :=
      Store.readAccount_row _ _ _ (h.clock hcalm)
    rw [hok] at hread
    cases hread

/-! ## Updates -/

section Updates

variable {α : Type} {ends : Except Failure α → Store → Prop} {uid : Int}

/-- A call that changes the account of the identity lightly and cannot fail. -/
theorem write_upholds (h : Robust t i calm inv) {c : Store.Call}
    {f : c.Reply → Script Failure α} (change : Account → Account) (hlight : Light t change)
    (hperform : ∀ s : Store, (s.perform c).2 = s.modify uid change)
    (hok : ∀ (s : Store) e, (s.perform c).1 ≠ .error e) (howns : Owns i s uid)
    (hf : ∀ r s', Owns i s' uid → (f r).Upholds inv ends s') :
    (ask c >>= f).Upholds inv ends s := by
  refine upholds_ask_bind fun s' hinv hgrows => ?_
  have howns' : Owns i s' uid := howns.grows hgrows
  rw [hperform s']
  refine ⟨?_, fun r _ => hf r _ howns', fun e he => absurd he (hok s' e)⟩
  obtain ⟨m, hm, hmodule, rfl⟩ := howns'.mem
  exact h.updated hinv hm hmodule hlight

theorem refreshMail_upholds (h : Robust t i calm inv) (mail : Option String) (a : Account)
    (howns : Owns i s a.uid) {f : Account → Script Failure α}
    (hf : ∀ b s', b.uid = a.uid → Owns i s' a.uid → (f b).Upholds inv ends s') :
    (refreshMail t mail a >>= f).Upholds inv ends s := by
  unfold refreshMail
  split
  · rename_i m _
    split
    · exact hf a s rfl howns
    · refine upholds_bind ?_
      refine write_upholds h (fun b => { b with mail := some m })
        ⟨fun _ => rfl, fun _ => rfl, fun _ => rfl, fun _ => .inl rfl⟩ (fun _ => rfl)
        (fun _ _ => nofun) howns fun _ s' howns' => ?_
      exact upholds_pure fun s'' _ hgrows => hf _ s'' rfl (howns'.grows hgrows)
  · exact hf a s rfl howns

theorem refreshRoles_upholds (h : Robust t i calm inv) (a : Account)
    (howns : Owns i s a.uid) {f : Account → Script Failure α}
    (hf : ∀ b s', b.uid = a.uid → Owns i s' a.uid → (f b).Upholds inv ends s') :
    (refreshRoles t a >>= f).Upholds inv ends s := by
  unfold refreshRoles
  split
  · refine upholds_bind ?_
    refine write_upholds h (fun b => { b with roles := t.grants })
      ⟨fun _ => rfl, fun _ => rfl, fun _ => rfl, fun _ => .inl rfl⟩ (fun _ => rfl)
      (fun _ _ => nofun) howns fun _ s' howns' => ?_
    exact upholds_pure fun s'' _ hgrows => hf _ s'' rfl (howns'.grows hgrows)
  · exact hf a s rfl howns

end Updates

theorem touch_upholds (h : Robust t i calm inv) (howns : Owns i s a.uid) :
    (touch a t.now).Upholds inv (Settled calm i Account.uid) s := by
  unfold touch
  refine write_upholds h (fun b => { b with lastLogin := some t.now })
    ⟨fun _ => rfl, fun _ => rfl, fun _ => rfl, fun _ => .inr rfl⟩ (fun _ => rfl)
    (fun _ _ => nofun) howns fun _ s' howns' => ?_
  exact upholds_pure fun s'' _ hgrows => howns'.grows hgrows

theorem refresh_upholds (h : Robust t i calm inv) (mail : Option String)
    (howns : Owns i s a.uid) :
    (refresh t mail a).Upholds inv (Settled calm i Account.uid) s := by
  unfold refresh
  split
  · exact upholds_fail fun _ _ _ => .inr (.inl rfl)
  · refine refreshMail_upholds h mail a howns fun b s' hb howns' => ?_
    rw [← hb] at howns'
    refine refreshRoles_upholds h b howns' fun b' s'' hb' howns'' => ?_
    rw [← hb'] at howns''
    exact touch_upholds h howns''

/-! ## New links -/

theorem associate_upholds (h : Robust t i calm inv) (mail : Option String) {s₁ s₂ : Store}
    (h₁ : inv s₁) (h₂ : inv s₂) (h₁₂ : Grows s₁ s₂)
    (hl : s₁.accountByAuthname directoryModule i.authname = .ok none)
    (hn : s₂.accountByName i.accountName = .ok (some a)) :
    (associate t i.authname mail a).Upholds inv (Settled calm i Account.uid) s₂ := by
  unfold associate
  split
  · exact upholds_fail fun _ _ _ => .inr (.inl rfl)
  · rename_i hopen
    refine upholds_ask_bind fun s₃ h₃ h₂₃ => ⟨h₃, fun found hfound => ?_, fun e he => nomatch he⟩
    cases found with
    | some m => exact upholds_fail fun _ _ _ => .inl rfl
    | none =>
      have hfree : s₃.authmap a.uid directoryModule = none := Except.ok.inj hfound
      dsimp only
      split
      · exact upholds_fail fun _ _ _ => .inl rfl
      · rename_i hallowed
        refine upholds_ask_bind fun s₄ h₄ h₃₄ => ?_
        have hu : ∃ b ∈ s₄.accounts, b.uid = a.uid :=
          (h₂₃.trans h₃₄).uid_mem (Store.accountByName_eq_some hn).1
        have hseen : Seen t i inv s₄ a := {
          unlinked := ⟨s₁, h₁, h₁₂.trans (h₂₃.trans h₃₄), hl⟩
          named := ⟨s₂, s₃, h₂, h₃, h₂₃, h₃₄, hn, hfree⟩
          open_ := by simpa using hopen
          allowed := by
            cases hx : t.settings.existingAccount with
            | reject => exact absurd hx hallowed
            | associate => rfl }
        rcases Store.createAuthmap_cases s₄ a.uid directoryModule i.authname with
          ⟨e, he⟩ | ⟨hnone, -, he⟩
        · have hrefused : Refused calm (.store e) := refused_linkError hu (congrArg Prod.fst he)
          rw [Store.perform, he]
          refine ⟨h₄, fun _ hm => (by cases hm), fun e' he' _ => ?_⟩
          exact Except.error.inj he' ▸ hrefused
        · rw [Store.perform, he]
          exact ⟨h.linked h₄ hseen hnone hu,
            fun _ _ => refresh_upholds h mail ⟨_, Store.link?_addAuthmap hnone, rfl⟩,
            fun _ he' => by cases he'⟩

theorem provision_upholds (h : Robust t i calm inv) :
    (provision t i.authname (mailFor t.settings i) i.accountName).Upholds inv
      (Settled calm i Account.uid) s := by
  let c : Store.Call := .provisionAccount (fresh t i) directoryModule i.authname t.now
  show (ask c >>= fun a => touch a t.now).Upholds inv (Settled calm i Account.uid) s
  refine upholds_ask_bind fun s' hinv _ => ?_
  rcases Store.provisionAccount_cases s' (fresh t i) directoryModule i.authname t.now with
    ⟨e, he⟩ | ⟨hn, hl, he⟩
  · have hrefused : Refused calm (.store e) := h.refused_provisionError (congrArg Prod.fst he)
    rw [Store.perform, he]
    refine ⟨hinv, fun _ ha => (by cases ha), fun e' he' _ => ?_⟩
    exact Except.error.inj he' ▸ hrefused
  · rw [Store.perform, he]
    refine ⟨h.provisioned hinv hn hl, fun a ha => ?_, fun e' he' _ => ?_⟩
    · obtain rfl := Store.readAccount_eq_ok ha
      exact touch_upholds h ⟨_, Store.link?_addAuthmap hl, rfl⟩
    · exact h.refused_provisionError ((congrArg Prod.fst he).trans he')

/-! ## A whole mapping -/

theorem mapped_upholds {m : Script Failure Account} (provisioned : Bool)
    (h : m.Upholds inv (Settled calm i Account.uid) s) :
    (m >>= fun a => pure (⟨a, provisioned⟩ : Mapped)).Upholds inv
      (Settled calm i fun m => m.account.uid) s := by
  refine upholds_bind (h.imp fun r s' hr => ?_)
  cases r with
  | ok a => exact upholds_pure fun s'' _ hgrows => Owns.grows hr hgrows
  | error f => exact hr

theorem map_upholds (h : Robust t i calm inv) (s : Store) :
    (map t i).Upholds inv (Settled calm i fun m => m.account.uid) s := by
  unfold map
  refine upholds_ask_bind fun s₁ h₁ _ => ⟨h₁, fun found hl => ?_, fun e he _ =>
    h.refused_of_unreadable h₁ (Store.accountByAuthname_eq_error he)⟩
  cases found with
  | some a => exact mapped_upholds false (refresh_upholds h _ (owns_of_read hl))
  | none =>
    refine upholds_ask_bind fun s₂ h₂ h₁₂ => ⟨h₂, fun found hn => ?_, fun e he _ =>
      h.refused_of_unreadable h₂ (Store.accountByName_eq_error he)⟩
    cases found with
    | some a => exact mapped_upholds false (associate_upholds h _ h₁ h₂ h₁₂ hl hn)
    | none =>
      dsimp only
      split
      · exact upholds_fail fun _ _ _ => .inl rfl
      · exact mapped_upholds true (provision_upholds h)

/-! ## Length -/

theorem callsAtMost_ask (c : Store.Call) : (ask c).CallsAtMost 1 := fun _ => trivial

theorem callsAtMost_pure {α : Type} (a : α) (n : Nat) :
    (pure a : Script Failure α).CallsAtMost n := by
  cases n <;> trivial

theorem callsAtMost_fail {α : Type} (f : Failure) (n : Nat) :
    (Script.fail f : Script Failure α).CallsAtMost n := by
  cases n <;> trivial

theorem refreshMail_callsAtMost (t : Terms) (mail : Option String) (a : Account) :
    (refreshMail t mail a).CallsAtMost 1 := by
  unfold refreshMail
  split
  · split
    · exact callsAtMost_pure _ 1
    · exact callsAtMost_bind (n := 0) (callsAtMost_ask _) fun _ => callsAtMost_pure _ 0
  · exact callsAtMost_pure _ 1

theorem refreshRoles_callsAtMost (t : Terms) (a : Account) :
    (refreshRoles t a).CallsAtMost 1 := by
  unfold refreshRoles
  split
  · exact callsAtMost_bind (n := 0) (callsAtMost_ask _) fun _ => callsAtMost_pure _ 0
  · exact callsAtMost_pure _ 1

theorem touch_callsAtMost (a : Account) (now : Instant) : (touch a now).CallsAtMost 1 :=
  callsAtMost_bind (n := 0) (callsAtMost_ask _) fun _ => callsAtMost_pure _ 0

theorem refresh_callsAtMost (t : Terms) (mail : Option String) (a : Account) :
    (refresh t mail a).CallsAtMost 3 := by
  unfold refresh
  split
  · exact callsAtMost_fail _ 3
  · exact callsAtMost_bind (n := 2) (refreshMail_callsAtMost t mail a) fun a =>
      callsAtMost_bind (n := 1) (refreshRoles_callsAtMost t a) fun a => touch_callsAtMost a t.now

theorem associate_callsAtMost (t : Terms) (authname : String) (mail : Option String)
    (a : Account) : (associate t authname mail a).CallsAtMost 5 := by
  unfold associate
  split
  · exact callsAtMost_fail _ 5
  · refine callsAtMost_bind (n := 4) (callsAtMost_ask _) fun found => ?_
    cases found with
    | some m => exact callsAtMost_fail _ 4
    | none =>
      dsimp only
      split
      · exact callsAtMost_fail _ 4
      · exact callsAtMost_bind (n := 3) (callsAtMost_ask _) fun _ => refresh_callsAtMost t mail a

theorem provision_callsAtMost (t : Terms) (authname : String) (mail : Option String)
    (name : String) : (provision t authname mail name).CallsAtMost 2 :=
  callsAtMost_bind (n := 1) (callsAtMost_ask _) fun a => touch_callsAtMost a t.now

theorem mapped_callsAtMost {m : Script Failure Account} {n : Nat} (provisioned : Bool)
    (h : m.CallsAtMost n) :
    (m >>= fun a => pure (⟨a, provisioned⟩ : Mapped)).CallsAtMost n :=
  callsAtMost_bind (n := 0) h fun _ => callsAtMost_pure _ 0

theorem map_callsAtMost (t : Terms) (i : Identity) : (map t i).CallsAtMost 7 := by
  unfold map
  refine callsAtMost_bind (n := 6) (callsAtMost_ask _) fun found => ?_
  cases found with
  | some a =>
    exact callsAtMost_mono (mapped_callsAtMost false (refresh_callsAtMost t _ a)) (by decide)
  | none =>
    refine callsAtMost_bind (n := 5) (callsAtMost_ask _) fun found => ?_
    cases found with
    | some a => exact mapped_callsAtMost false (associate_callsAtMost t i.authname _ a)
    | none =>
      dsimp only
      split
      · exact callsAtMost_fail _ 5
      · exact callsAtMost_mono
          (mapped_callsAtMost true (provision_callsAtMost t i.authname _ i.accountName)) (by decide)

/-! ## Races -/

section Races

variable {ι : Type} [DecidableEq ι] {terms : ι → Terms} {identities : ι → Identity}

/-- Mappings for several identities at once. -/
def race (s : Store) (terms : ι → Terms) (identities : ι → Identity) :
    Store.Race ι Failure Mapped :=
  ⟨s, fun k => map (terms k) (identities k)⟩

/-- What each single mapping does not break, no race breaks. -/
theorem race_upheld (h : ∀ k, Robust (terms k) (identities k) calm inv) (hs : inv s)
    (schedule : List ι) :
    Store.Race.Upheld inv (fun k => Settled calm (identities k) fun m => m.account.uid)
      ((race s terms identities).run schedule) :=
  Store.Race.run_upholds ⟨hs, fun k => map_upholds (h k) s⟩ schedule

/-- A mapping that gets seven turns has ended by then. -/
theorem race_done (s : Store) (terms : ι → Terms) (identities : ι → Identity) {k : ι}
    {schedule : List ι} (hk : 7 ≤ schedule.count k) :
    (((race s terms identities).run schedule).result? k).isSome :=
  Store.Race.run_done (map_callsAtMost (terms k) (identities k)) hk

end Races

end DirectoryLogin.Mapping
