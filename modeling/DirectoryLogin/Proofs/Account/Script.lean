import DirectoryLogin.Account.Script
import DirectoryLogin.Failure.Basic

/-!
# Running scripts

* `run_bind`: a script that goes on after another runs the two in turn, unless the first fails;
* `Undisturbed`: a run in which the database itself works, whatever it refuses.
-/

namespace DirectoryLogin.Store.Script

variable {ε α β : Type}

@[simp]
theorem run_pure (a : α) (s : Store) : (pure a : Script ε α).run s = (.ok a, s) := rfl

@[simp]
theorem run_fail (e : ε) (s : Store) : (fail e : Script ε α).run s = (.error e, s) := rfl

@[simp]
theorem run_ask (wrap : StoreError → ε) (c : Call) (s : Store) :
    (ask wrap c).run s = ((s.perform c).1.mapError wrap, (s.perform c).2) := rfl

theorem run_ask_ok {wrap : StoreError → ε} {c : Call} {r : c.Reply} {s s' : Store}
    (h : s.perform c = (.ok r, s')) : (ask wrap c).run s = (.ok r, s') := by
  rw [run_ask, h]
  rfl

theorem run_ask_error {wrap : StoreError → ε} {c : Call} {e : StoreError} {s s' : Store}
    (h : s.perform c = (.error e, s')) : (ask wrap c).run s = (.error (wrap e), s') := by
  rw [run_ask, h]
  rfl

theorem run_bind (m : Script ε α) (f : α → Script ε β) (s : Store) :
    (m >>= f).run s =
      match m.run s with
      | (.ok a, s') => (f a).run s'
      | (.error e, s') => (.error e, s') := by
  induction m generalizing s with
  | done result =>
    cases result with
    | ok a => rfl
    | error e => rfl
  | call c next ih => exact ih (s.perform c).1 (s.perform c).2

theorem run_bind_ok {m : Script ε α} {s s' : Store} {a : α} (h : m.run s = (.ok a, s'))
    (f : α → Script ε β) : (m >>= f).run s = (f a).run s' := by
  rw [run_bind, h]

theorem run_bind_error {m : Script ε α} {s s' : Store} {e : ε} (h : m.run s = (.error e, s'))
    (f : α → Script ε β) : (m >>= f).run s = (.error e, s') := by
  rw [run_bind, h]

/-! ## The database at work -/

/-- The calls that a run makes meet no error of the database. -/
def Undisturbed : Script ε α → Store → Prop
  | done _, _ => True
  | call c next, s =>
    (∀ e, (s.perform c).1 = .error e → e.kind ≠ .databaseError) ∧
      (next (s.perform c).1).Undisturbed (s.perform c).2

theorem undisturbed_ask {wrap : StoreError → ε} {c : Call} {s : Store} :
    (ask wrap c).Undisturbed s ↔ ∀ e, (s.perform c).1 = .error e → e.kind ≠ .databaseError :=
  and_iff_left trivial

theorem undisturbed_bind {m : Script ε α} {f : α → Script ε β} {s : Store} :
    (m >>= f).Undisturbed s ↔
      m.Undisturbed s ∧ ∀ a s', m.run s = (.ok a, s') → (f a).Undisturbed s' := by
  induction m generalizing s with
  | done result =>
    cases result with
    | ok a =>
      refine ⟨fun h => ⟨trivial, fun b s' hb => ?_⟩, fun h => h.2 a s rfl⟩
      cases hb
      exact h
    | error e =>
      refine ⟨fun _ => ⟨trivial, fun b s' hb => ?_⟩, fun _ => trivial⟩
      cases hb
  | call c next ih => exact (and_congr_right fun _ => ih _).trans and_assoc.symm

/-- To run `m` in `s` comes to the same as to run `m'` in `s'`, for the result, for the store that
is left, and for the database. -/
structure Leads (m : Script ε α) (s : Store) (m' : Script ε α) (s' : Store) : Prop where
  run : m.run s = m'.run s'
  undisturbed : m.Undisturbed s ↔ m'.Undisturbed s'

namespace Leads

variable {m m' m'' : Script ε α} {s s' s'' : Store}

theorem trans (h : Leads m s m' s') (h' : Leads m' s' m'' s'') : Leads m s m'' s'' :=
  ⟨h.run.trans h'.run, h.undisturbed.trans h'.undisturbed⟩

theorem bind (h : Leads m s m' s') (f : α → Script ε β) : Leads (m >>= f) s (m' >>= f) s' where
  run := by rw [run_bind, run_bind, h.run]
  undisturbed := by rw [undisturbed_bind, undisturbed_bind, h.undisturbed, h.run]

/-- A call that succeeds leads to what is done with its reply. -/
theorem ask {wrap : StoreError → ε} {c : Call} {r : c.Reply} (h : s.perform c = (.ok r, s'))
    (f : c.Reply → Script ε β) : Leads (ask wrap c >>= f) s (f r) s' := by
  have hrun : (Script.ask wrap c).run s = (.ok r, s') := run_ask_ok h
  refine ⟨run_bind_ok hrun f, ?_⟩
  rw [undisturbed_bind, undisturbed_ask, hrun, h]
  constructor
  · intro hf
    exact hf.2 r s' rfl
  · intro hf
    refine ⟨fun e he => (nomatch he), fun a t ha => ?_⟩
    cases ha
    exact hf

end Leads

end DirectoryLogin.Store.Script
