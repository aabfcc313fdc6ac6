import DirectoryLogin.Proofs.Account.History
import DirectoryLogin.Proofs.Account.Script
import Mathlib.Logic.Function.Basic

/-!
# Scripts taken in turns

Several scripts work on one store, a call at a time. A schedule says whose turn it is, and any
schedule can come about.

* `Race`: a store with the scripts that work on it;
* `Grows`: what no call of any script takes back;
* `Script.Upholds`: a script keeps an invariant of the store although others work between its
  calls, and ends as it should. `upholds_bind` and `upholds_ask_bind` find this out call by call;
* `Race.run_upholds`: scripts that uphold an invariant each for itself do so together;
* `Script.CallsAtMost`, `Race.run_done`: a script that gets enough turns is done.
-/

namespace DirectoryLogin.Store

variable {s s' s'' : Store} {c : Call}

/-! ## What no call takes back -/

/-- Links stay as they are, new ones come after them, and uids stay in use. -/
structure Grows (s s' : Store) : Prop where
  authmaps : s.authmaps <+: s'.authmaps
  uids : s.accounts.map (·.uid) ⊆ s'.accounts.map (·.uid)

namespace Grows

theorem refl (s : Store) : Grows s s := ⟨List.prefix_rfl, fun _ h => h⟩

theorem trans (h : Grows s s') (h' : Grows s' s'') : Grows s s'' :=
  ⟨h.authmaps.trans h'.authmaps, fun _ hu => h'.uids (h.uids hu)⟩

theorem link? (h : Grows s s') {module authname : String} {m : Authmap}
    (hl : s.link? module authname = some m) : s'.link? module authname = some m := by
  obtain ⟨later, hlater⟩ := h.authmaps
  unfold Store.link? at hl ⊢
  rw [← hlater, List.find?_append, hl, Option.some_or]

theorem link?_eq_none (h : Grows s s') {module authname : String}
    (hl : s'.link? module authname = none) : s.link? module authname = none := by
  rw [link?_eq_none_iff] at hl ⊢
  exact fun m hm => hl m (h.authmaps.subset hm)

theorem authmap_eq_none (h : Grows s s') {uid : Int} {module : String}
    (hm : s'.authmap uid module = none) : s.authmap uid module = none := by
  rw [authmap, List.find?_eq_none] at hm ⊢
  exact fun m hs => hm m (h.authmaps.subset hs)

theorem uid_mem (h : Grows s s') {a : Account} (ha : a ∈ s.accounts) :
    ∃ b ∈ s'.accounts, b.uid = a.uid :=
  List.mem_map.mp (h.uids (List.mem_map_of_mem ha))

end Grows

theorem perform_grows (s : Store) (c : Call) : Grows s (s.perform c).2 := by
  refine ⟨?_, fun _ => uid_mem_perform⟩
  cases c with
  | createAuthmap uid module authname =>
    rcases createAuthmap_cases s uid module authname with ⟨e, h⟩ | ⟨-, -, h⟩
    · simp only [perform, h, List.prefix_rfl]
    · rw [perform, h]
      exact List.prefix_append _ _
  | provisionAccount n module authname now =>
    rcases provisionAccount_cases s n module authname now with ⟨e, h⟩ | ⟨-, -, h⟩
    · simp only [perform, h, List.prefix_rfl]
    · rw [perform, h]
      exact List.prefix_append _ _
  | createAccount n now =>
    rcases createAccount_cases s n now with h | ⟨-, h⟩
    · simp only [perform, h, List.prefix_rfl]
    · rw [perform, h]
      exact List.prefix_rfl
  | ensureSiteOwner n now =>
    rcases ensureSiteOwner_cases s n now with h | ⟨-, -, h⟩
    · simp only [perform, h, List.prefix_rfl]
    · rw [perform, h]
      exact List.prefix_rfl
  | account | accountByName | listAccounts | updateMail | updateRoles | setStatus
  | setLdapExcluded | touchLogin | accountByAuthname | authmap | saveSettings | savedSettings
  | healthCheck | reopen => exact List.prefix_rfl

/-! ## One script among others -/

namespace Script

variable {ε α β : Type} {m : Script ε α} {inv : Store → Prop} {ends : Except ε α → Store → Prop}

/-- The script makes its next call, if it has one to make. -/
def step (m : Script ε α) (s : Store) : Script ε α × Store :=
  match m with
  | done r => (done r, s)
  | call c next => (next (s.perform c).1, (s.perform c).2)

/-- The script makes its next `n` calls. -/
def steps (m : Script ε α) : Nat → Store → Script ε α × Store
  | 0, s => (m, s)
  | n + 1, s => (m.step s).1.steps n (m.step s).2

/-- What the script ended with, if it is done. -/
def result? : Script ε α → Option (Except ε α)
  | done r => some r
  | call .. => none

/-- A call that succeeds goes on with what it answers. -/
theorem step_ask_bind {wrap : StoreError → ε} {c : Call} {a : c.Reply}
    (h : s.perform c = (.ok a, s')) (f : c.Reply → Script ε β) :
    (ask wrap c >>= f).step s = (f a, s') := by
  show (bind (done ((s.perform c).1.mapError wrap)) f, (s.perform c).2) = _
  rw [h]
  rfl

theorem step_bind (h : m.result? = none) (f : α → Script ε β) (s : Store) :
    (m >>= f).step s = ((m.step s).1 >>= f, (m.step s).2) := by
  cases m with
  | done r => cases h
  | call c next => rfl

/-- Whatever happens to the store between the calls, as long as `inv` holds of it and it grows,
every call keeps `inv`, and the script ends as `ends` says. -/
def Upholds (inv : Store → Prop) (ends : Except ε α → Store → Prop) : Script ε α → Store → Prop
  | done r, s => ∀ s', inv s' → Grows s s' → ends r s'
  | call c next, s => ∀ s', inv s' → Grows s s' →
    inv (s'.perform c).2 ∧ (next (s'.perform c).1).Upholds inv ends (s'.perform c).2

theorem Upholds.grows (h : m.Upholds inv ends s) (hs : Grows s s') : m.Upholds inv ends s' := by
  cases m with
  | done r => exact fun s'' hinv hgrows => h s'' hinv (hs.trans hgrows)
  | call c next => exact fun s'' hinv hgrows => h s'' hinv (hs.trans hgrows)

theorem Upholds.imp {ends' : Except ε α → Store → Prop} (h : m.Upholds inv ends s)
    (himp : ∀ r s, ends r s → ends' r s) : m.Upholds inv ends' s := by
  induction m generalizing s with
  | done r => exact fun s' hinv hgrows => himp r s' (h s' hinv hgrows)
  | call c next ih =>
    intro s' hinv hgrows
    obtain ⟨hinv', hnext⟩ := h s' hinv hgrows
    exact ⟨hinv', ih _ hnext⟩

/-- It is enough to look at the stores in which the next call can be made. -/
theorem upholds_of_later (h : ∀ s', inv s' → Grows s s' → m.Upholds inv ends s') :
    m.Upholds inv ends s := by
  cases m with
  | done r => exact fun s' hinv hgrows => h s' hinv hgrows s' hinv (.refl s')
  | call c next => exact fun s' hinv hgrows => h s' hinv hgrows s' hinv (.refl s')

theorem Upholds.step (h : m.Upholds inv ends s) (hinv : inv s) :
    inv (m.step s).2 ∧ Grows s (m.step s).2 ∧ (m.step s).1.Upholds inv ends (m.step s).2 := by
  cases m with
  | done r => exact ⟨hinv, .refl s, h⟩
  | call c next =>
    obtain ⟨hinv', hnext⟩ := h s hinv (.refl s)
    exact ⟨hinv', perform_grows s c, hnext⟩

theorem Upholds.ends_of_done {r : Except ε α} (h : m.Upholds inv ends s) (hinv : inv s)
    (hr : m.result? = some r) : ends r s := by
  cases m with
  | done r' =>
    cases hr
    exact h s hinv (.refl s)
  | call c next => cases hr

theorem upholds_pure {a : α} (h : ∀ s', inv s' → Grows s s' → ends (.ok a) s') :
    (pure a : Script ε α).Upholds inv ends s := h

theorem upholds_fail {e : ε} (h : ∀ s', inv s' → Grows s s' → ends (.error e) s') :
    (fail e : Script ε α).Upholds inv ends s := h

/-- How the first part of a script has to end: the second part goes on from there, or the script
fails as it may. -/
def GoesOn (inv : Store → Prop) (ends : Except ε β → Store → Prop) (f : α → Script ε β) :
    Except ε α → Store → Prop
  | .ok a, s => (f a).Upholds inv ends s
  | .error e, s => ends (.error e) s

theorem upholds_bind {f : α → Script ε β} {ends : Except ε β → Store → Prop}
    (h : m.Upholds inv (GoesOn inv ends f) s) : (m >>= f).Upholds inv ends s := by
  induction m generalizing s with
  | done r =>
    cases r with
    | ok a => exact upholds_of_later h
    | error e => exact h
  | call c next ih =>
    intro s' hinv hgrows
    obtain ⟨hinv', hnext⟩ := h s' hinv hgrows
    exact ⟨hinv', ih _ hnext⟩

/-- A call keeps the invariant, and the script goes on with what the call answers. -/
theorem upholds_ask_bind {wrap : StoreError → ε} {c : Call} {f : c.Reply → Script ε β}
    {ends : Except ε β → Store → Prop}
    (h : ∀ s', inv s' → Grows s s' → inv (s'.perform c).2 ∧
      (∀ a, (s'.perform c).1 = .ok a → (f a).Upholds inv ends (s'.perform c).2) ∧
      ∀ e, (s'.perform c).1 = .error e → ∀ s'', ends (.error (wrap e)) s'') :
    (ask wrap c >>= f).Upholds inv ends s := by
  intro s' hinv hgrows
  obtain ⟨hinv', hok, herror⟩ := h s' hinv hgrows
  refine ⟨hinv', ?_⟩
  show (bind (done ((s'.perform c).1.mapError wrap)) f).Upholds inv ends _
  cases hr : (s'.perform c).1 with
  | ok a => exact hok a hr
  | error e => exact fun s'' _ _ => herror e hr s''

/-! ## How long a script takes -/

/-- The script makes no more than `n` calls, whatever they answer. -/
def CallsAtMost : Nat → Script ε α → Prop
  | _, done _ => True
  | 0, call .. => False
  | n + 1, call _ next => ∀ r, (next r).CallsAtMost n

theorem callsAtMost_mono {k n : Nat} (h : m.CallsAtMost k) (hkn : k ≤ n) : m.CallsAtMost n := by
  induction m generalizing k n with
  | done r =>
    cases n with
    | zero => trivial
    | succ n => trivial
  | call c next ih =>
    cases k with
    | zero => exact h.elim
    | succ k =>
      cases n with
      | zero => exact absurd hkn (Nat.not_succ_le_zero k)
      | succ n => exact fun r => ih r (h r) (Nat.le_of_succ_le_succ hkn)

theorem callsAtMost_bind {k n : Nat} {f : α → Script ε β} (h : m.CallsAtMost k)
    (hf : ∀ a, (f a).CallsAtMost n) : (m >>= f).CallsAtMost (k + n) := by
  induction m generalizing k with
  | done r =>
    cases r with
    | ok a => exact callsAtMost_mono (hf a) (Nat.le_add_left n k)
    | error e =>
      show (done (.error e)).CallsAtMost (k + n)
      cases k + n <;> trivial
  | call c next ih =>
    cases k with
    | zero => exact h.elim
    | succ k =>
      rw [Nat.succ_add]
      exact fun r => ih r (h r)

theorem callsAtMost_step {n : Nat} (h : m.CallsAtMost n) (s : Store) :
    (m.step s).1.CallsAtMost (n - 1) := by
  cases m with
  | done r => cases n - 1 <;> trivial
  | call c next =>
    cases n with
    | zero => exact h.elim
    | succ n => exact h _

end Script

/-! ## Races -/

/-- A store with the scripts that work on it. -/
structure Race (ι ε α : Type) where
  store : Store
  scripts : ι → Script ε α

namespace Race

variable {ι ε α : Type} [DecidableEq ι] {r : Race ι ε α} {inv : Store → Prop}
  {ends : ι → Except ε α → Store → Prop}

/-- One of the scripts makes its next call. -/
def step (r : Race ι ε α) (i : ι) : Race ι ε α :=
  ⟨((r.scripts i).step r.store).2,
    Function.update r.scripts i ((r.scripts i).step r.store).1⟩

/-- The scripts take turns. -/
def run (r : Race ι ε α) (schedule : List ι) : Race ι ε α := schedule.foldl step r

/-- What a script ended with, if it is done. -/
def result? (r : Race ι ε α) (i : ι) : Option (Except ε α) := (r.scripts i).result?

/-- Each script upholds the invariant, and the store has it. -/
structure Upheld (inv : Store → Prop) (ends : ι → Except ε α → Store → Prop) (r : Race ι ε α) :
    Prop where
  holds : inv r.store
  scripts : ∀ i, (r.scripts i).Upholds inv (ends i) r.store

theorem Upheld.step (h : Upheld inv ends r) (i : ι) : Upheld inv ends (r.step i) := by
  obtain ⟨hinv, hgrows, hnext⟩ := (h.scripts i).step h.holds
  refine ⟨hinv, fun j => ?_⟩
  by_cases hj : j = i
  · subst hj
    simp only [Race.step, Function.update_self]
    exact hnext
  · simp only [Race.step, Function.update_of_ne hj]
    exact (h.scripts j).grows hgrows

/-- Scripts that uphold an invariant each for itself uphold it together, in any order. -/
theorem run_upholds (h : Upheld inv ends r) (schedule : List ι) :
    Upheld inv ends (r.run schedule) := by
  induction schedule generalizing r with
  | nil => exact h
  | cons i schedule ih => exact ih (h.step i)

omit [DecidableEq ι] in
theorem Upheld.ends_of_done (h : Upheld inv ends r) {i : ι} {result : Except ε α}
    (hr : r.result? i = some result) : ends i result r.store :=
  (h.scripts i).ends_of_done h.holds hr

theorem run_callsAtMost {i : ι} {n : Nat} (h : (r.scripts i).CallsAtMost n) (schedule : List ι) :
    ((r.run schedule).scripts i).CallsAtMost (n - schedule.count i) := by
  induction schedule generalizing r n with
  | nil => exact h
  | cons j schedule ih =>
    by_cases hj : i = j
    · subst hj
      have hstep : ((r.step i).scripts i).CallsAtMost (n - 1) := by
        simp only [step, Function.update_self]
        exact Script.callsAtMost_step h r.store
      rw [List.count_cons_self, Nat.add_comm, ← Nat.sub_sub]
      exact ih hstep
    · have hstep : ((r.step j).scripts i).CallsAtMost n := by
        simp only [step, Function.update_of_ne hj]
        exact h
      rw [List.count_cons_of_ne (Ne.symm hj)]
      exact ih hstep

/-- A script that gets as many turns as it has calls to make is done. -/
theorem run_done {i : ι} {n : Nat} (h : (r.scripts i).CallsAtMost n) {schedule : List ι}
    (hn : n ≤ schedule.count i) : ((r.run schedule).result? i).isSome := by
  have hzero := run_callsAtMost h schedule
  rw [Nat.sub_eq_zero_of_le hn] at hzero
  unfold result?
  cases hs : (r.run schedule).scripts i with
  | done result => rfl
  | call c next =>
    rw [hs] at hzero
    exact hzero.elim

/-- A script may make several calls in a row. -/
theorem run_replicate {i : ι} {n : Nat} {m : Script ε α} {s : Store}
    (h : (r.scripts i).steps n r.store = (m, s)) :
    r.run (List.replicate n i) = ⟨s, Function.update r.scripts i m⟩ := by
  induction n generalizing r with
  | zero =>
    obtain ⟨rfl, rfl⟩ := Prod.mk.inj h
    rw [Function.update_eq_self]
    rfl
  | succ n ih =>
    have hstep : ((r.step i).scripts i).steps n (r.step i).store = (m, s) := by
      simp only [step, Function.update_self]
      exact h
    rw [List.replicate_succ]
    refine (ih hstep).trans ?_
    simp only [step, Function.update_idem]

theorem run_append (r : Race ι ε α) (first second : List ι) :
    r.run (first ++ second) = (r.run first).run second := List.foldl_append ..

end Race

end DirectoryLogin.Store
