import DirectoryLogin.Proofs.Directory.Registry
import Mathlib.Data.List.Induction
import Mathlib.Data.List.Nodup

/-!
# The books of the registry

What a registry lists and finds is told by the sequence of registrations alone.

* `sids_insert`: what a registration changes on the list of ids;
* `Lists`: the ids are those of the registrations, in the order in which each was first registered.
  `Lists.insert` is the step, `ofList_lists` the run;
* `map_get?_sids`: there is one directory for each id, the one that is found under it;
* `Ledger`: the order of the ids and the directories under them kept apart. The two stay in agreement
  with each other and with the registry (`Ledger.Agrees`), through registrations that replace a
  directory too;
* `candidates_mixed`: a login asks the directories that `serves` picks from the ids of the settings;
* `books_kept`: all of this after any sequence of registrations.
-/

namespace DirectoryLogin

namespace Registry

variable {r : Registry} {d : Directory} {ds : List Directory} {sid : String}

/-! ## The list of ids -/

theorem map_sid_place (d : Directory) (ds : List Directory) :
    (place d ds).map (·.sid) =
      if d.sid ∈ ds.map (·.sid) then ds.map (·.sid) else ds.map (·.sid) ++ [d.sid] := by
  induction ds with
  | nil => rfl
  | cons x rest ih =>
    by_cases hx : x.sid = d.sid
    · simp [place, hx]
    · rw [place, if_neg hx, List.map_cons, ih, List.map_cons]
      have hmem : d.sid ∈ x.sid :: rest.map (·.sid) ↔ d.sid ∈ rest.map (·.sid) :=
        List.mem_cons.trans (or_iff_right (Ne.symm hx))
      by_cases hd : d.sid ∈ rest.map (·.sid)
      · rw [if_pos hd, if_pos (hmem.mpr hd)]
      · rw [if_neg hd, if_neg (mt hmem.mp hd), List.cons_append]

/-- An id that is known keeps its place, and a new one comes last. -/
theorem sids_insert (r : Registry) (d : Directory) :
    (r.insert d).sids = if d.sid ∈ r.sids then r.sids else r.sids ++ [d.sid] :=
  map_sid_place d r.directories

theorem ofList_concat (ds : List Directory) (d : Directory) :
    ofList (ds ++ [d]) = (ofList ds).insert d := by
  rw [ofList, List.foldl_append]
  rfl

/-- The registry lists the ids of these registrations, in the order in which each came first. -/
structure Lists (r : Registry) (ds : List Directory) : Prop where
  mem : ∀ sid, sid ∈ r.sids ↔ sid ∈ ds.map (·.sid)
  ordered : r.sids.Pairwise fun a b => (ds.map (·.sid)).idxOf a < (ds.map (·.sid)).idxOf b

/-- No id comes first before itself, so none is listed twice. -/
theorem Lists.nodup (h : r.Lists ds) : r.sids.Nodup :=
  h.ordered.imp fun hlt heq => absurd (heq ▸ hlt) (Nat.lt_irrefl _)

theorem Lists.insert (h : r.Lists ds) (d : Directory) : (r.insert d).Lists (ds ++ [d]) := by
  have hids : (ds ++ [d]).map (·.sid) = ds.map (·.sid) ++ [d.sid] := List.map_append
  have hidx : ∀ sid ∈ r.sids,
      (ds.map (·.sid) ++ [d.sid]).idxOf sid = (ds.map (·.sid)).idxOf sid := fun sid hsid =>
    List.idxOf_append_of_mem ((h.mem sid).mp hsid)
  have hordered : r.sids.Pairwise fun a b => (ds.map (·.sid) ++ [d.sid]).idxOf a <
      (ds.map (·.sid) ++ [d.sid]).idxOf b :=
    h.ordered.imp_of_mem fun ha hb hlt => by rwa [hidx _ ha, hidx _ hb]
  by_cases hd : d.sid ∈ r.sids
  · constructor
    · intro sid
      have hknown := (h.mem d.sid).mp hd
      rw [sids_insert, if_pos hd, hids, h.mem, List.mem_append, List.mem_singleton]
      exact (or_iff_left_of_imp fun heq => heq ▸ hknown).symm
    · rw [sids_insert, if_pos hd, hids]
      exact hordered
  · have hnew : d.sid ∉ ds.map (·.sid) := mt (h.mem d.sid).mpr hd
    constructor
    · intro sid
      rw [sids_insert, if_neg hd, hids, List.mem_append, List.mem_append, h.mem]
    · rw [sids_insert, if_neg hd, hids, List.pairwise_append]
      refine ⟨hordered, List.pairwise_singleton _ _, fun a ha b hb => ?_⟩
      rw [List.mem_singleton.mp hb, hidx a ha, List.idxOf_append_of_notMem hnew]
      exact Nat.lt_add_right _ (List.idxOf_lt_length_of_mem ((h.mem a).mp ha))

theorem ofList_lists (ds : List Directory) : (ofList ds).Lists ds := by
  induction ds using List.reverseRecOn with
  | nil => exact ⟨fun _ => Iff.rfl, .nil⟩
  | append_singleton ds d ih =>
    rw [ofList_concat]
    exact ih.insert d

/-! ## The directories under the ids -/

/-- Where no id is listed twice, each directory is the one found under its id. -/
theorem map_get?_sids (h : r.sids.Nodup) : r.sids.map r.get? = r.all.map some := by
  rw [sids, List.map_map, all]
  refine List.map_congr_left fun d hd => ?_
  obtain ⟨x, hx⟩ := exists_get?_of_mem_sids (List.mem_map_of_mem hd : d.sid ∈ r.sids)
  have hxd : x = d := List.inj_on_of_nodup_map h (List.mem_of_find?_eq_some hx) hd (sid_of_get? hx)
  rw [Function.comp_apply, hx, hxd]

end Registry

/-! ## Order and directories kept apart -/

/-- The ids in order and, apart from them, the directory under each id. -/
structure Ledger where
  order : List String
  directory : String → Option Directory

namespace Ledger

def empty : Ledger := ⟨[], fun _ => none⟩

/-- Writes the directory under its id, and the id at the end of the list unless there was a directory
under it before. -/
def insert (l : Ledger) (d : Directory) : Ledger where
  order := if (l.directory d.sid).isSome then l.order else l.order ++ [d.sid]
  directory sid := if d.sid = sid then some d else l.directory sid

def ofList (ds : List Directory) : Ledger := ds.foldl insert empty

/-- The directories of the ids on the list. -/
def all (l : Ledger) : List Directory := l.order.filterMap l.directory

/-- The ledger and the registry list the same ids and find the same directories. -/
structure Agrees (l : Ledger) (r : Registry) : Prop where
  order : l.order = r.sids
  directory : ∀ sid, l.directory sid = r.get? sid

variable {l : Ledger} {r : Registry}

theorem Agrees.insert (h : l.Agrees r) (d : Directory) : (l.insert d).Agrees (r.insert d) := by
  constructor
  · rw [Ledger.insert, Registry.sids_insert, h.directory, h.order]
    simp only [Registry.isSome_get?_iff]
  · intro sid
    simp only [Ledger.insert, Registry.get?_insert, h.directory]

theorem ofList_agrees (ds : List Directory) : (ofList ds).Agrees (.ofList ds) := by
  induction ds using List.reverseRecOn with
  | nil => exact ⟨rfl, fun _ => rfl⟩
  | append_singleton ds d ih =>
    rw [Registry.ofList_concat, ofList, List.foldl_append]
    exact ih.insert d

theorem Agrees.all_eq (h : l.Agrees r) (hr : r.sids.Nodup) : l.all = r.all := by
  have hsome : r.all = (r.sids.map r.get?).filterMap id := by
    rw [Registry.map_get?_sids hr, List.filterMap_map]
    exact List.filterMap_some.symm
  rw [hsome, List.filterMap_map, all, h.order, funext h.directory]
  rfl

end Ledger

namespace Registry

variable {r : Registry} {c : Settings.Authentication}

/-! ## Whom a login asks -/

/-- A directory is registered under the id, and it is enabled. -/
def serves (r : Registry) (sid : String) : Bool := (r.get? sid).any (·.definition.enabled)

theorem listed_eq (r : Registry) (sids : List String) :
    ((sids.filterMap r.get?).filter (·.definition.enabled)).map some =
      (sids.filter r.serves).map r.get? := by
  induction sids with
  | nil => rfl
  | cons sid rest ih =>
    cases hget : r.get? sid with
    | none =>
      have hserves : r.serves sid = false := by rw [serves, hget]; rfl
      rw [List.filterMap_cons_none hget, List.filter_cons_of_neg (by simp [hserves]), ih]
    | some d =>
      have hserves : r.serves sid = d.definition.enabled := by rw [serves, hget]; rfl
      rw [List.filterMap_cons_some hget, List.filter_cons, List.filter_cons, hserves]
      by_cases he : d.definition.enabled = true
      · rw [if_pos he, if_pos he, List.map_cons, List.map_cons, ih, hget]
      · rw [if_neg he, if_neg he, ih]

/-- In mixed mode a login asks under the ids of the settings, in their order, unknown and disabled
servers left out. -/
theorem candidates_mixed (r : Registry) (c : Settings.Authentication) :
    (r.candidates { c with mode := .mixed }).map some = (c.sids.filter r.serves).map r.get? :=
  listed_eq r c.sids

theorem candidates_exclusive (r : Registry) (c : Settings.Authentication) :
    r.candidates { c with mode := .exclusive } =
      (r.candidates { c with mode := .mixed }).head?.toList :=
  List.take_one

/-- After any sequence of registrations each registered id is listed once, in the order of the first
registrations, the directory under an id is the one registered last, and there is one directory for
each id of the list; order and directories kept apart say the same. A login asks as the settings
list the ids, in exclusive mode the first only. -/
theorem books_kept (ds : List Directory) :
    (∀ sid, (ofList ds).sids.count sid = if sid ∈ ds.map (·.sid) then 1 else 0) ∧
      ((ofList ds).sids.Pairwise fun a b =>
        (ds.map (·.sid)).idxOf a < (ds.map (·.sid)).idxOf b) ∧
      (∀ sid, (ofList ds).get? sid = (ds.filter (·.sid == sid)).getLast?) ∧
      (ofList ds).all.map some = (ofList ds).sids.map (ofList ds).get? ∧
      (Ledger.ofList ds).Agrees (ofList ds) ∧ (Ledger.ofList ds).all = (ofList ds).all ∧
      ∀ c : Settings.Authentication,
        ((ofList ds).candidates { c with mode := .mixed }).map some =
          (c.sids.filter (ofList ds).serves).map (ofList ds).get? ∧
        (ofList ds).candidates { c with mode := .exclusive } =
          ((ofList ds).candidates { c with mode := .mixed }).head?.toList := by
  have hlists := ofList_lists ds
  have hagrees := Ledger.ofList_agrees ds
  refine ⟨fun sid => ?_, hlists.ordered, fun sid => ?_, (map_get?_sids hlists.nodup).symm, hagrees,
    hagrees.all_eq hlists.nodup, fun c => ⟨candidates_mixed _ c, candidates_exclusive _ c⟩⟩
  · rw [List.Nodup.count hlists.nodup]
    simp only [hlists.mem]
  · rw [get?_ofList, List.getLast?_filter]

end Registry

end DirectoryLogin
