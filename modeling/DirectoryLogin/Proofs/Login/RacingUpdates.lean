import DirectoryLogin.Proofs.Login.SavedSettings
import Mathlib.Data.Fintype.EquivFin

/-!
# Racing updates

An update saves the settings and then puts them in force, and these are two steps: another update
can come between them. The save that comes last decides what a later start takes over, the
application that comes last decides what is in force until then, and nothing makes both belong to
one update.

* `UpdateStep`, `afterSteps`, `Interleaves`: the steps of several accepted updates in some order;
* `inStep_afterSteps_iff`: the two agree if the last save and the last application are of the same
  settings;
* `updates_converge_iff`: they agree in all orders only if all updates are of the same settings.
-/

namespace DirectoryLogin

open Settings (Authentication)

namespace Service

/-- What a start would take over from the store is in force already. -/
def InStep (r : Realm) (s : Service) : Prop := s.saved? r = some s.live

instance (r : Realm) (s : Service) : Decidable (s.InStep r) :=
  inferInstanceAs (Decidable (_ = _))

/-- The two steps of an update whose settings are accepted. -/
inductive UpdateStep
  | save
  | apply
  deriving DecidableEq, Repr

/-! ## Steps of several updates -/

variable {ι : Type}

/-- A step of the update that submits the settings of that index. -/
def take (cs : ι → Authentication) (s : Service) : ι × UpdateStep → Service
  | (k, .save) => s.save (cs k)
  | (k, .apply) => s.apply (cs k)

def afterSteps (cs : ι → Authentication) (s : Service) (e : List (ι × UpdateStep)) : Service :=
  e.foldl (take cs) s

/-- The steps of one update after those of another one. -/
def inTurn (ks : List ι) : List (ι × UpdateStep) := ks.flatMap fun k => [(k, .save), (k, .apply)]

/-- The update that takes a step of that kind last. -/
def lastOf (x : UpdateStep) (e : List (ι × UpdateStep)) : Option ι :=
  (e.reverse.find? (·.2 == x)).map (·.1)

/-- Every update takes its two steps, the save first. -/
def Interleaves [DecidableEq ι] (e : List (ι × UpdateStep)) : Prop :=
  ∀ k, (e.filter (·.1 = k)).map (·.2) = [.save, .apply]

instance [DecidableEq ι] [Fintype ι] (e : List (ι × UpdateStep)) : Decidable (Interleaves e) :=
  inferInstanceAs (Decidable (∀ _, _))

variable {r : Realm} {cs : ι → Authentication} {s : Service} {e : List (ι × UpdateStep)} {j k : ι}

/-- Without others in between, the steps are the update. -/
theorem update_eq_afterSteps (h : (cs k).check r.registry.sids = .ok ()) :
    s.update r (cs k) = (.ok (), s.afterSteps cs (inTurn [k])) :=
  update_eq_ok_iff.mpr ⟨h, rfl⟩

theorem lastOf_concat (x : UpdateStep) (e : List (ι × UpdateStep)) (p : ι × UpdateStep) :
    lastOf x (e ++ [p]) = if p.2 = x then some p.1 else lastOf x e := by
  simp only [lastOf, List.reverse_append, List.reverse_singleton, List.singleton_append,
    List.find?_cons]
  split <;> simp_all

theorem live_afterSteps (cs : ι → Authentication) (s : Service) (e : List (ι × UpdateStep)) :
    (s.afterSteps cs e).live = ((lastOf .apply e).map cs).getD s.live := by
  induction e using List.reverseRecOn with
  | nil => rfl
  | append_singleton e p ih =>
    rw [lastOf_concat, afterSteps, List.foldl_concat]
    obtain ⟨k, x⟩ := p
    cases x with
    | save => exact ih
    | apply => rfl

theorem saved?_save (r : Realm) (s : Service) {c : Authentication}
    (h : c.check r.registry.sids = .ok ()) : (s.save c).saved? r = some c := by
  rw [saved?_eq, save, s.store.savedSettings_saveSettings, Option.bind_some, usable?_print h]

theorem saved?_afterSteps (hc : ∀ k, (cs k).check r.registry.sids = .ok ()) (s : Service)
    (e : List (ι × UpdateStep)) :
    (s.afterSteps cs e).saved? r = ((lastOf .save e).map cs).or (s.saved? r) := by
  induction e using List.reverseRecOn with
  | nil => rfl
  | append_singleton e p ih =>
    rw [lastOf_concat, afterSteps, List.foldl_concat]
    obtain ⟨k, x⟩ := p
    cases x with
    | save => exact saved?_save r _ (hc k)
    | apply => exact ih

/-- The next start puts the settings in force that were saved last. -/
theorem load_afterSteps (hc : ∀ k, (cs k).check r.registry.sids = .ok ())
    (hj : lastOf .save e = some j) : ((s.afterSteps cs e).load r).2.live = cs j := by
  have saved : (s.afterSteps cs e).saved? r = some (cs j) := by
    rw [saved?_afterSteps hc, hj]
    rfl
  simp only [load, saved, apply]

/-- Whether they agree in the end is decided by the last step of either kind. -/
theorem inStep_afterSteps_iff (hc : ∀ k, (cs k).check r.registry.sids = .ok ())
    (hj : lastOf .save e = some j) (hk : lastOf .apply e = some k) :
    (s.afterSteps cs e).InStep r ↔ cs j = cs k := by
  rw [InStep, saved?_afterSteps hc, live_afterSteps, hj, hk]
  exact Option.some_inj

section Orders

variable [DecidableEq ι]

theorem Interleaves.mem (h : Interleaves e) (k : ι) (x : UpdateStep) : (k, x) ∈ e := by
  have hx : x ∈ (e.filter (·.1 = k)).map (·.2) := by
    rw [h k]
    cases x <;> simp
  obtain ⟨⟨i, y⟩, hp, rfl⟩ := List.mem_map.mp hx
  obtain ⟨hmem, hi⟩ := List.mem_filter.mp hp
  obtain rfl : i = k := of_decide_eq_true hi
  exact hmem

theorem Interleaves.exists_lastOf (h : Interleaves e) (k : ι) (x : UpdateStep) :
    ∃ j, lastOf x e = some j := by
  have hfound : (e.reverse.find? (·.2 == x)).isSome :=
    List.find?_isSome.mpr ⟨(k, x), List.mem_reverse.mpr (h.mem k x), beq_self_eq_true x⟩
  obtain ⟨p, hp⟩ := Option.isSome_iff_exists.mp hfound
  exact ⟨p.1, by rw [lastOf, hp]; rfl⟩

theorem filter_inTurn {ks : List ι} (hks : ks.Nodup) (k : ι) :
    ((inTurn ks).filter (·.1 = k)).map (·.2) = if k ∈ ks then [.save, .apply] else [] := by
  induction ks with
  | nil => rfl
  | cons i ks ih =>
    obtain ⟨hi, hrest⟩ := List.nodup_cons.mp hks
    have hcons : inTurn (i :: ks) = [(i, .save), (i, .apply)] ++ inTurn ks := rfl
    rw [hcons, List.filter_append, List.map_append, ih hrest]
    by_cases hik : i = k
    · subst hik
      simp [hi]
    · simp [hik, Ne.symm hik]

/-- All others one after the other, then one update between the two steps of another. -/
def crossed (others : List ι) (j k : ι) : List (ι × UpdateStep) :=
  inTurn others ++ [(j, .save), (k, .save), (k, .apply), (j, .apply)]

theorem interleaves_crossed {others : List ι} (hn : others.Nodup)
    (ho : ∀ i, i ∈ others ↔ i ≠ j ∧ i ≠ k) (hjk : j ≠ k) : Interleaves (crossed others j k) := by
  intro i
  rw [crossed, List.filter_append, List.map_append, filter_inTurn hn]
  by_cases hj : j = i
  · subst hj
    simp [ho, Ne.symm hjk]
  · by_cases hk : k = i
    · subst hk
      simp [ho, hjk]
    · simp [ho, hj, hk, Ne.symm hj, Ne.symm hk]

omit [DecidableEq ι] in
theorem lastOf_crossed (others : List ι) (j k : ι) :
    lastOf .save (crossed others j k) = some k ∧ lastOf .apply (crossed others j k) = some j := by
  simp [crossed, lastOf]

/-- The two steps, undisturbed, are the update. In a given order, what is in force is what is saved
exactly if the last save and the last application are of the same settings. So it is in every order
exactly if all settings are the same, or if there is no update and it was so before. -/
theorem updates_converge_iff [Finite ι] (hc : ∀ k, (cs k).check r.registry.sids = .ok ())
    (s : Service) :
    (∀ k, s.update r (cs k) = (.ok (), s.afterSteps cs (inTurn [k]))) ∧
    (∀ e j k, lastOf .save e = some j → lastOf .apply e = some k →
      ((s.afterSteps cs e).InStep r ↔ cs j = cs k)) ∧
    ((∀ e, Interleaves e → (s.afterSteps cs e).InStep r) ↔
      (∀ j k, cs j = cs k) ∧ (IsEmpty ι → s.InStep r)) := by
  refine ⟨fun k => update_eq_afterSteps (hc k), fun e j k => inStep_afterSteps_iff hc,
    fun hall => ⟨fun j k => ?_, fun hempty => ?_⟩, ?_⟩
  · by_contra hne
    have hjk : j ≠ k := fun h => hne (congrArg cs h)
    have := Fintype.ofFinite ι
    let others := (Finset.univ.filter fun i => i ≠ j ∧ i ≠ k).toList
    have hcross : Interleaves (crossed others j k) :=
      interleaves_crossed (Finset.nodup_toList _) (fun i => by simp [others]) hjk
    obtain ⟨hsave, happly⟩ := lastOf_crossed others j k
    exact hne ((inStep_afterSteps_iff hc hsave happly).mp (hall _ hcross)).symm
  · exact hall [] fun k => hempty.elim k
  · rintro ⟨hsame, hstart⟩ e he
    rcases isEmpty_or_nonempty ι with hempty | ⟨⟨i⟩⟩
    · have hnil : e = [] := List.eq_nil_iff_forall_not_mem.mpr fun p _ => hempty.elim p.1
      exact hnil ▸ hstart hempty
    · obtain ⟨j, hj⟩ := he.exists_lastOf i .save
      obtain ⟨k, hk⟩ := he.exists_lastOf i .apply
      exact (inStep_afterSteps_iff hc hj hk).mpr (hsame j k)

end Orders

end Service

/-! ## Two administrators at the sample site -/

/-- The same settings, submitted twice at once, are in force and saved in any order. -/
theorem sample_same_updates :
    (∀ _ : Bool, Sample.wordy.check Sample.realm.registry.sids = .ok ()) ∧
      ∀ e : List (Bool × Service.UpdateStep), Service.Interleaves e →
        ((Service.start .default).afterSteps (fun _ => Sample.wordy) e).InStep Sample.realm := by
  have accepted : ∀ _ : Bool, Sample.wordy.check Sample.realm.registry.sids = .ok () := fun _ => rfl
  have converge := (Service.updates_converge_iff accepted (Service.start .default)).2.2
  exact ⟨accepted, converge.mpr ⟨fun _ _ => rfl, fun empty => empty.elim true⟩⟩

namespace Sample

/-- The settings that two administrators submit at once. -/
def rival (first : Bool) : Authentication := if first then wordy else settings

def crossedSteps : List (Bool × Service.UpdateStep) :=
  [(true, .save), (false, .save), (false, .apply), (true, .apply)]

end Sample

/-- One administrator saves last and the other one puts settings in force last, so the next start
takes over other settings than were in force. -/
theorem crossed_updates_disagree :
    (∀ k, (Sample.rival k).check Sample.realm.registry.sids = .ok ()) ∧
      Service.Interleaves Sample.crossedSteps ∧
      ((Service.start .default).afterSteps Sample.rival Sample.crossedSteps).live = Sample.wordy ∧
      (((Service.start .default).afterSteps Sample.rival Sample.crossedSteps).load
        Sample.realm).2.live = Sample.settings ∧
      ¬ ((Service.start .default).afterSteps Sample.rival Sample.crossedSteps).InStep Sample.realm := by
  have accepted : ∀ k, (Sample.rival k).check Sample.realm.registry.sids = .ok () := by decide
  have lastSave : Service.lastOf .save Sample.crossedSteps = some false := rfl
  have lastApply : Service.lastOf .apply Sample.crossedSteps = some true := rfl
  refine ⟨accepted, by decide, ?_, ?_, ?_⟩
  · rw [Service.live_afterSteps, lastApply]
    rfl
  · exact Service.load_afterSteps accepted lastSave
  · rw [Service.inStep_afterSteps_iff accepted lastSave lastApply]
    decide

end DirectoryLogin
