import DirectoryLogin.Login.Service
import DirectoryLogin.Proofs.Login.Writes

/-!
# Histories of the service

A history is a list of turns. Each turn performs one operation of the service, under whatever
directories, rules and time there are at that moment, and a restart puts any settings in force.

* `after` and `events`: the service after a history, and what happened in its course;
* `step_store`: a turn makes some writes, or it makes the site owner's account;
* `after_wellLinked`, `after_keeps_authmaps`: what therefore holds after every history;
* `Reachable`: a service that got where it is by turns and by calls on its store.
-/

namespace DirectoryLogin.Service

open Digest (Bytes)
open Settings (Authentication)
open Time (Instant)

/-- An operation of the service with what it is given. -/
inductive Operation where
  | ensureSiteOwner (salt : Bytes) (name : String) (mail password : Option String)
  | createLocalAccount (salt : Bytes) (name : String) (mail : Option String) (password : String)
      (excluded : Bool)
  | verifySiteOwner (name password : String)
  | login (q : LoginRequest)
  | update (c : Authentication)
  | load
  /-- Starts the service anew on its store, with settings that nothing checks. -/
  | restart (c : Authentication)

/-- An operation and the surroundings in which it is performed. -/
structure Turn where
  realm : Realm
  now : Instant
  operation : Operation

/-- The service after a turn. -/
def step (s : Service) (t : Turn) : Service :=
  match t.operation with
  | .ensureSiteOwner salt name mail password => (s.ensureSiteOwner t.now salt name mail password).2
  | .createLocalAccount salt name mail password excluded =>
    (s.createLocalAccount t.now salt name mail password excluded).2
  | .verifySiteOwner _ _ => s
  | .login q => { s with store := (q.attempt t.realm s.live t.now s.store).store }
  | .update c => (s.update t.realm c).2
  | .load => (s.load t.realm).2
  | .restart c => s.apply c

/-- The service after a history. -/
def after (s : Service) (ts : List Turn) : Service := ts.foldl step s

/-- A service without accounts. -/
def start (c : Authentication) : Service := ⟨.empty, c⟩

/-- A turn and the service that it met. -/
structure Event where
  before : Service
  turn : Turn

namespace Event

def after (e : Event) : Service := e.before.step e.turn

/-- The person whom the turn logged in. -/
def outcome? (e : Event) : Option Outcome :=
  match e.turn.operation with
  | .login q => (q.attempt e.turn.realm e.before.live e.turn.now e.before.store).result.toOption
  | _ => none

/-- The identity by which the turn decided a login. -/
def identity? (e : Event) : Option Identity :=
  match e.turn.operation with
  | .login q => q.identity? e.turn.realm e.before.live e.before.store
  | _ => none

end Event

/-- What happens in the course of a history. -/
def events (s : Service) : List Turn → List Event
  | [] => []
  | t :: ts => ⟨s, t⟩ :: (s.step t).events ts

variable {s : Service} {ts earlier later : List Turn} {t : Turn} {e : Event}
  {o : Outcome}

/-! ## Runs -/

theorem after_append (s : Service) (earlier later : List Turn) :
    s.after (earlier ++ later) = (s.after earlier).after later :=
  List.foldl_append

/-- What every turn keeps holds after a history. -/
theorem after_invariant {P : Service → Prop} (hp : ∀ s t, P s → P (s.step t)) (h : P s)
    (ts : List Turn) : P (s.after ts) := by
  induction ts generalizing s with
  | nil => exact h
  | cons t ts ih => exact ih (hp s t h)

/-- An event divides the history into what led to it and what came of it. -/
theorem mem_events (h : e ∈ s.events ts) :
    ∃ earlier later, ts = earlier ++ e.turn :: later ∧ e.before = s.after earlier ∧
      s.after ts = e.after.after later := by
  induction ts generalizing s with
  | nil => cases h
  | cons t ts ih =>
    rcases List.mem_cons.mp h with rfl | h
    · exact ⟨[], ts, rfl, rfl, rfl⟩
    · obtain ⟨earlier, later, rfl, hb, ha⟩ := ih h
      exact ⟨t :: earlier, later, rfl, hb, ha⟩

/-! ## Turns -/

/-- The turn makes the site owner's account, and answers with it if the clock can be read back. -/
structure MakesOwner (s : Service) (t : Turn) : Prop where
  asked : ∃ salt name mail password, t.operation = .ensureSiteOwner salt name mail password ∧
    (Time.fourDigitYear t.now = true →
      ∃ a, (s.ensureSiteOwner t.now salt name mail password).1 = .ok a)
  ownerless : ∀ a ∈ s.store.accounts, a.uid ≠ siteOwnerUid
  made : ∃ a, a.uid = siteOwnerUid ∧ s.store.nameTaken a.name = false ∧
    (s.step t).store = s.store.addOwner a

/-- All that a turn can do to the store. -/
theorem step_store (s : Service) (t : Turn) :
    MakesOwner s t ∨ Writes s.store (s.step t).store := by
  obtain ⟨realm, now, operation⟩ := t
  cases operation with
  | ensureSiteOwner salt name mail password =>
    let n := newLocal name mail (password.map (hashOf salt)) false
    let a := Store.NewAccount.row n siteOwnerUid false now
    rcases s.store.ensureSiteOwner_cases n now with h | ⟨hnew, hn, h⟩
    · right
      show Writes s.store (s.store.ensureSiteOwner n now).2
      rw [h]
    · left
      refine ⟨⟨salt, name, mail, password, rfl, fun hclock => ⟨a, ?_⟩⟩, hnew, a, rfl, hn, ?_⟩
      · show (s.store.ensureSiteOwner n now).1.mapError _ = _
        rw [h, Store.readAccount_row n false now hclock]
        rfl
      · show (s.store.ensureSiteOwner n now).2 = _
        rw [h]
  | createLocalAccount salt name mail password excluded =>
    right
    have hc := s.store.createAccount_cases
      (newLocal name mail (some (hashOf salt password)) excluded) now
    show Writes s.store (s.store.createAccount _ now).2
    rcases hc with h | ⟨hn, h⟩
    · rw [h]
    · rw [h]
      exact .single (.added _ _ _ hn)
  | verifySiteOwner name password => exact Or.inr .refl
  | login q => exact Or.inr (q.attempt_writes realm s.live now s.store)
  | update c =>
    right
    simp only [step, Service.update]
    split
    · exact .refl
    · exact .single (.saved _ _)
  | load =>
    right
    simp only [step, Service.load]
    split
    · exact .refl
    · exact .refl
  | restart c => exact Or.inr .refl

theorem step_wellFormed (h : s.store.WellFormed) (t : Turn) : (s.step t).store.WellFormed := by
  rcases step_store s t with ⟨-, hnew, a, hu, hn, ha⟩ | hw
  · rw [ha]
    exact h.addOwner hu hnew hn
  · exact hw.wellFormed h

theorem step_wellLinked (h : WellLinked s.store) (t : Turn) : WellLinked (s.step t).store := by
  rcases step_store s t with ⟨-, hnew, a, hu, hn, ha⟩ | hw
  · rw [ha]
    exact h.addOwner hu hnew hn
  · exact h.writes hw

theorem step_keeps_authmaps (s : Service) (t : Turn) :
    s.store.authmaps <+: (s.step t).store.authmaps := by
  rcases step_store s t with ⟨-, -, a, -, -, ha⟩ | hw
  · rw [ha]
    exact List.prefix_rfl
  · exact hw.keeps_authmaps

/-- A turn leaves the site owner's account as it is, the time of the last login aside. -/
theorem step_owner (h : WellLinked s.store) (t : Turn) {a : Account} (ha : a ∈ s.store.accounts)
    (hu : a.uid = siteOwnerUid) :
    ∃ at_, { a with lastLogin := at_ } ∈ (s.step t).store.accounts := by
  rcases step_store s t with ⟨-, hnew, -⟩ | hw
  · exact absurd hu (hnew a ha)
  · exact hw.owner h ha hu

/-! ## Histories -/

/-- What holds of the store after every history. -/
theorem after_wellLinked (c : Authentication) (ts : List Turn) :
    WellLinked ((start c).after ts).store :=
  after_invariant (P := fun s => WellLinked s.store) (fun _ t h => step_wellLinked h t) .empty ts

/-- Links stay where they are through a history. -/
theorem after_keeps_authmaps (s : Service) (ts : List Turn) :
    s.store.authmaps <+: (s.after ts).store.authmaps :=
  after_invariant (P := fun s' => s.store.authmaps <+: s'.store.authmaps)
    (fun s' t h => h.trans (step_keeps_authmaps s' t)) List.prefix_rfl ts

theorem event_wellLinked {c : Authentication} (h : e ∈ (start c).events ts) :
    WellLinked e.before.store := by
  obtain ⟨earlier, -, -, hb, -⟩ := mem_events h
  rw [hb]
  exact after_wellLinked c earlier

theorem event_after_wellLinked {c : Authentication} (h : e ∈ (start c).events ts) :
    WellLinked e.after.store :=
  step_wellLinked (event_wellLinked h) e.turn

theorem outcome?_eq_some (h : e.outcome? = some o) :
    ∃ q, e.turn.operation = .login q ∧
      (q.attempt e.turn.realm e.before.live e.turn.now e.before.store).result = .ok o := by
  unfold Event.outcome? at h
  split at h
  · rename_i q hq
    exact ⟨q, hq, toOption_eq_some_iff.mp h⟩
  · cases h

/-- An outcome by anything but a local password leaves its identity linked to its account. -/
theorem outcome_linked (h : e.outcome? = some o) (hm : o.method ≠ .localPassword) :
    ∃ i, e.identity? = some i ∧ ∃ l ∈ e.after.store.authmaps, l.module = directoryModule ∧
      l.authname = i.authname ∧ l.uid = o.account.uid := by
  obtain ⟨q, hq, ho⟩ := outcome?_eq_some h
  obtain ⟨i, grants, happ⟩ := LoginRequest.attempt_approved ho hm
  obtain ⟨l, hl, hu⟩ := happ.ending.link_of_ok
  obtain ⟨hmem, hmod, hname⟩ := Store.link?_eq_some hl
  have hafter : e.after.store =
      (q.attempt e.turn.realm e.before.live e.turn.now e.before.store).store := by
    simp only [Event.after, step, hq]
  refine ⟨i, ?_, l, ?_, hmod, hname, hu⟩
  · simp only [Event.identity?, hq]
    exact happ.identified
  · rw [hafter]
    exact hmem

/-- A service that got where it is by turns and by calls on its store. -/
inductive Reachable : Service → Prop
  | start (c : Authentication) : Reachable (start c)
  | turn (s : Service) (t : Turn) : Reachable s → Reachable (s.step t)
  | call (s : Service) (c : Store.Call) :
      Reachable s → Reachable { s with store := (s.store.perform c).2 }

theorem Reachable.wellFormed (h : Reachable s) : s.store.WellFormed := by
  induction h with
  | start c => exact .empty
  | turn s t _ ih => exact step_wellFormed ih t
  | call s c _ ih => exact Store.perform_wellFormed ih c

end DirectoryLogin.Service
