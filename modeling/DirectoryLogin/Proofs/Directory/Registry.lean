import DirectoryLogin.Directory.Registry
import Mathlib.Data.List.Basic

/-!
# Looking up directories

* `get?_insert`, `get?_ofList`: the directory that was registered last under an id is the one that
  is found under it;
* `get?_of_mem_candidates`: a login asks only directories that are registered;
* `candidates_eq_nil_iff`: it asks none if all that are listed are disabled;
* `exists_candidate_insert_iff`: to register a directory in place of another one changes what is
  asked in its place only.
-/

namespace DirectoryLogin.Registry

variable {r : Registry} {c : Settings.Authentication} {d : Directory}

theorem find?_place (d : Directory) (ds : List Directory) (sid : String) :
    (place d ds).find? (·.sid == sid) =
      if d.sid = sid then some d else ds.find? (·.sid == sid) := by
  induction ds with
  | nil =>
    by_cases hd : d.sid = sid
    · simp [place, hd]
    · simp [place, hd]
  | cons x rest ih =>
    by_cases hx : x.sid = d.sid
    · rw [place, if_pos hx]
      by_cases hd : d.sid = sid
      · simp [hd]
      · simp [hd, hx]
    · rw [place, if_neg hx]
      by_cases hs : x.sid = sid
      · have hd : d.sid ≠ sid := fun h => hx (hs.trans h.symm)
        simp [hs, hd]
      · simp [hs, ih]

theorem get?_insert (r : Registry) (d : Directory) (sid : String) :
    (r.insert d).get? sid = if d.sid = sid then some d else r.get? sid :=
  find?_place d r.directories sid

/-- Of several directories with an id the last one counts. -/
theorem get?_ofList (ds : List Directory) (sid : String) :
    (ofList ds).get? sid = ds.reverse.find? (·.sid == sid) := by
  have hfold : ∀ (ds : List Directory) (r : Registry),
      (ds.foldl insert r).get? sid = (ds.reverse.find? (·.sid == sid)).or (r.get? sid) := by
    intro ds
    induction ds with
    | nil => exact fun r => rfl
    | cons d rest ih =>
      intro r
      rw [List.foldl_cons, ih, get?_insert, List.reverse_cons, List.find?_append, Option.or_assoc]
      by_cases hd : d.sid = sid
      · simp [hd]
      · simp [hd]
  rw [ofList, hfold]
  exact Option.or_none

theorem sid_of_get? {sid : String} (h : r.get? sid = some d) : d.sid = sid := by
  simpa using List.find?_some h

/-- The directories that a login asks are registered under their ids. -/
theorem get?_of_mem_candidates (h : d ∈ r.candidates c) : r.get? d.sid = some d := by
  have hlisted : d ∈ (c.sids.filterMap r.get?).filter (·.definition.enabled) := by
    unfold candidates at h
    dsimp only at h
    split at h
    · exact h
    · exact List.mem_of_mem_take h
  obtain ⟨sid, -, hget⟩ := List.mem_filterMap.mp (List.mem_filter.mp hlisted).1
  rw [sid_of_get? hget]
  exact hget

theorem mem_candidates_of_mixed (hm : c.mode = .mixed) (hs : d.sid ∈ c.sids)
    (hget : r.get? d.sid = some d) (he : d.definition.enabled = true) : d ∈ r.candidates c := by
  simp only [candidates, hm]
  exact List.mem_filter.mpr ⟨List.mem_filterMap.mpr ⟨d.sid, hs, hget⟩, he⟩

theorem isSome_get?_iff {sid : String} : (r.get? sid).isSome = true ↔ sid ∈ r.sids := by
  rw [get?, List.find?_isSome]
  simp [sids]

theorem exists_get?_of_mem_sids {sid : String} (h : sid ∈ r.sids) : ∃ d, r.get? sid = some d :=
  Option.isSome_iff_exists.mp (isSome_get?_iff.mpr h)

/-- Whether there is a directory to ask does not depend on the mode. -/
theorem candidates_eq_nil_iff : r.candidates c = [] ↔
    ∀ sid ∈ c.sids, ∀ d, r.get? sid = some d → d.definition.enabled = false := by
  have hlisted : (c.sids.filterMap r.get?).filter (·.definition.enabled) = [] ↔
      ∀ sid ∈ c.sids, ∀ d, r.get? sid = some d → d.definition.enabled = false := by
    simp only [List.filter_eq_nil_iff, List.mem_filterMap, Bool.not_eq_true]
    grind
  unfold candidates
  dsimp only
  split
  · exact hlisted
  · rw [← hlisted, List.take_eq_nil_iff]
    exact or_iff_right Nat.one_ne_zero

/-- Registries that correspond, and in which the same directories are enabled, have corresponding
candidates. -/
theorem candidates_map {r' : Registry} {f : Directory → Directory}
    (hget : ∀ sid, r'.get? sid = (r.get? sid).map f)
    (henabled : ∀ sid x, r.get? sid = some x → (f x).definition.enabled = x.definition.enabled) :
    r'.candidates c = (r.candidates c).map f := by
  have hlisted : (c.sids.filterMap r'.get?).filter (·.definition.enabled) =
      ((c.sids.filterMap r.get?).filter (·.definition.enabled)).map f := by
    have hall : c.sids.filterMap r'.get? = (c.sids.filterMap r.get?).map f := by
      rw [List.map_filterMap]
      exact List.filterMap_congr fun sid _ => hget sid
    rw [hall, List.filter_map]
    refine congrArg (List.map f) (List.filter_congr fun x hx => ?_)
    obtain ⟨sid, -, hsid⟩ := List.mem_filterMap.mp hx
    exact henabled sid x hsid
  unfold candidates
  dsimp only
  rw [hlisted]
  split
  · rfl
  · exact List.map_take.symm

/-- The directory `d'` in the place of `d`, and every other directory as it is. -/
def swap (d d' x : Directory) : Directory := if x.sid = d.sid then d' else x

variable {d' : Directory}

theorem get?_insert_swap (hs : d'.sid = d.sid) (r : Registry) (sid : String) :
    (r.insert d').get? sid = ((r.insert d).get? sid).map (swap d d') := by
  rw [get?_insert, get?_insert, hs]
  by_cases hd : d.sid = sid
  · simp [swap, hd]
  · rw [if_neg hd, if_neg hd]
    cases hx : r.get? sid with
    | none => rfl
    | some x =>
      have hne : x.sid ≠ d.sid := by
        rw [sid_of_get? hx]
        exact Ne.symm hd
      simp [swap, hne]

theorem candidates_insert_swap (hdef : d'.definition = d.definition) :
    (r.insert d').candidates c = ((r.insert d).candidates c).map (swap d d') := by
  refine candidates_map (get?_insert_swap (congrArg ServerDefinition.sid hdef) r) ?_
  intro sid x hx
  by_cases hxd : x.sid = d.sid
  · have hsid : sid = d.sid := (sid_of_get? hx).symm.trans hxd
    rw [hsid, get?_insert, if_pos rfl] at hx
    obtain rfl := Option.some.inj hx
    rw [swap, if_pos rfl, hdef]
  · rw [swap, if_neg hxd]

theorem exists_candidate_insert_iff {P : Directory → Prop} (h : d ∈ (r.insert d).candidates c)
    (hdef : d'.definition = d.definition) :
    (∃ x ∈ (r.insert d').candidates c, P x) ↔
      P d' ∨ ∃ x ∈ (r.insert d).candidates c, x.sid ≠ d.sid ∧ P x := by
  rw [candidates_insert_swap hdef]
  constructor
  · rintro ⟨y, hy, hP⟩
    obtain ⟨x, hx, rfl⟩ := List.mem_map.mp hy
    by_cases hxd : x.sid = d.sid
    · rw [swap, if_pos hxd] at hP
      exact .inl hP
    · rw [swap, if_neg hxd] at hP
      exact .inr ⟨x, hx, hxd, hP⟩
  · rintro (hP | ⟨x, hx, hxd, hP⟩)
    · exact ⟨d', List.mem_map.mpr ⟨d, h, by simp [swap]⟩, hP⟩
    · exact ⟨x, List.mem_map.mpr ⟨x, hx, by simp [swap, hxd]⟩, hP⟩

end DirectoryLogin.Registry
