import DirectoryLogin.Proofs.Directory.Registry
import DirectoryLogin.Proofs.Directory.Tree
import DirectoryLogin.Proofs.Login.Admission
import DirectoryLogin.Proofs.Login.Links

/-!
# Histories among entries that stay as they are

Whom a login concerns can be told by the entry that it finds, as long as the entries do not change.
A `World` is a list of trees; a history that it hosts asks these trees and no others, each of which
may be unavailable at times.

* `Service.LogsIn`: a turn of a history logs an identity in through a directory;
* `World.Holds`: the identity is an entry of the tree that counts for its server, found under one
  of its login names;
* `World.holds_of_event`: every identity that decides a login in a hosted history is one;
* `World.Holds.ext`: the server and the distinguished name tell which entry it is.
-/

namespace DirectoryLogin

open Settings (Authentication)

theorem LoginRequest.found_of_identity? {r : Realm} {c : Authentication} {s : Store}
    {q : LoginRequest} {i : Identity} (h : q.identity? r c s = some i) :
    ∃ d ∈ r.registry.candidates c, ∃ e name password, i = ⟨e, Text.trim name, d.definition⟩ ∧
      d.findEntry (Text.trim name) password = .ok (some e) := by
  cases q with
  | password name secret =>
    obtain ⟨-, -, d, hd, e, hi, hs⟩ := identity?_password h
    exact ⟨d, hd, e, name, some secret, hi, hs.found⟩
  | singleSignOn v =>
    obtain ⟨-, u, -, d, hd, e, hi, hs⟩ := identity?_singleSignOn h
    exact ⟨d, hd, e, u, none, hi, hs.found⟩

/-- A turn of the history logs the identity in through a directory. -/
def Service.LogsIn (c : Authentication) (ts : List Service.Turn) (i : Identity) (o : Outcome) :
    Prop :=
  ∃ e ∈ (Service.start c).events ts,
    e.outcome? = some o ∧ o.method ≠ .localPassword ∧ e.identity? = some i

/-- Logins reach one account just when their identities have one key. -/
theorem Service.LogsIn.uid_eq_iff {c : Authentication} {ts : List Service.Turn} {i i' : Identity}
    {o o' : Outcome} (h : LogsIn c ts i o) (h' : LogsIn c ts i' o') :
    o.account.uid = o'.account.uid ↔ i.authname = i'.authname := by
  obtain ⟨e, he, ho, hm, hi⟩ := h
  obtain ⟨e', he', ho', hm', hi'⟩ := h'
  obtain ⟨j, j', hj, hj', huid⟩ := outcome_uid_eq_iff he he' ho ho' hm hm'
  obtain rfl := Option.some.inj (hi.symm.trans hj)
  obtain rfl := Option.some.inj (hi'.symm.trans hj')
  exact huid

/-- The identity of an entry of the tree under a name. -/
def Tree.identity (t : Tree) (e : Entry) (username : String) : Identity :=
  ⟨e, username, t.definition⟩

/-- Trees whose entries stay as they are. -/
structure World where
  trees : List Tree
  /-- Within a tree, an entry is known by its distinguished name. -/
  dns : ∀ t ∈ trees, t.entries.Pairwise fun a b => a.entry.dn ≠ b.entry.dn

namespace World

open Service (Turn Event)

variable {w : World} {t : Tree} {i i' : Identity} {ts : List Turn} {e : Event}

/-- The registry of the world at a time at which the trees with `down` are unavailable. -/
def registry (w : World) (down : Tree → Bool) : Registry :=
  .ofList (w.trees.map fun t => Tree.toDirectory { t with unavailable := down t })

/-- The tree that counts for an id: of several the last one. -/
def tree? (w : World) (sid : String) : Option Tree :=
  w.trees.reverse.find? (·.definition.sid == sid)

/-- All turns of the history ask the trees of the world. -/
def Hosts (w : World) (ts : List Turn) : Prop :=
  ∀ t ∈ ts, ∃ down, t.realm.registry = w.registry down

/-- The identity is an entry of the world, under one of its login names. -/
structure Holds (w : World) (i : Identity) : Prop where
  stored : ∃ t, w.tree? i.sid = some t ∧ i.definition = t.definition ∧
    (∃ s ∈ t.entries, s.entry = i.entry) ∧ t.answersTo i.entry i.username = true
  trimmed : Text.trim i.username = i.username

theorem get?_registry (w : World) (down : Tree → Bool) (sid : String) :
    (w.registry down).get? sid =
      (w.tree? sid).map fun t => Tree.toDirectory { t with unavailable := down t } := by
  rw [registry, Registry.get?_ofList, ← List.map_reverse, List.find?_map]
  rfl

theorem mem_of_tree? {sid : String} (h : w.tree? sid = some t) : t ∈ w.trees :=
  List.mem_reverse.mp (List.mem_of_find?_eq_some h)

theorem holds_of_event {s : Service} (hw : w.Hosts ts) (he : e ∈ s.events ts)
    (hi : e.identity? = some i) : w.Holds i := by
  obtain ⟨earlier, later, rfl, -, -⟩ := Service.mem_events he
  obtain ⟨down, hreg⟩ := hw e.turn (List.mem_append_right _ List.mem_cons_self)
  unfold Event.identity? at hi
  split at hi
  · obtain ⟨d, hd, entry, name, password, rfl, hfind⟩ := LoginRequest.found_of_identity? hi
    have hget := Registry.get?_of_mem_candidates hd
    rw [hreg, get?_registry] at hget
    obtain ⟨t, ht, rfl⟩ := Option.map_eq_some_iff.mp hget
    obtain ⟨st, hst, hentry, -, hname⟩ := Tree.mem_of_findEntry hfind
    exact ⟨⟨t, ht, rfl, ⟨st, hst, hentry⟩, hname⟩, Text.trim_trim name⟩
  · cases hi

theorem holds_of_logsIn {c : Authentication} {o : Outcome} (hw : w.Hosts ts)
    (h : Service.LogsIn c ts i o) : w.Holds i := by
  obtain ⟨e, he, -, -, hi⟩ := h
  exact holds_of_event hw he hi

/-- Two entries of one server with one distinguished name are the same. -/
theorem Holds.ext (h : w.Holds i) (h' : w.Holds i') (hs : i.sid = i'.sid)
    (hd : i.entry.dn = i'.entry.dn) : i.entry = i'.entry ∧ i.definition = i'.definition := by
  obtain ⟨t, ht, hdef, ⟨a, ha, hae⟩, -⟩ := h.stored
  obtain ⟨t', ht', hdef', ⟨b, hb, hbe⟩, -⟩ := h'.stored
  rw [← hs, ht] at ht'
  obtain rfl := Option.some.inj ht'
  have hnodup : (t.entries.map fun s => s.entry.dn).Nodup :=
    List.pairwise_map.mpr (w.dns t (mem_of_tree? ht))
  have hab : a = b := List.inj_on_of_nodup_map hnodup ha hb (by rw [hae, hbe, hd])
  exact ⟨by rw [← hae, ← hbe, hab], hdef.trans hdef'.symm⟩

/-- In a world of one tree, an identity is the one of an entry of that tree. -/
theorem Holds.of_single (h : w.Holds i) (ht : w.trees = [t]) :
    i = t.identity i.entry i.username ∧ (∃ s ∈ t.entries, s.entry = i.entry) ∧
      t.answersTo i.entry i.username = true := by
  obtain ⟨t', ht', hdef, hstored, hname⟩ := h.stored
  have hmem := mem_of_tree? ht'
  rw [ht] at hmem
  obtain rfl := List.mem_singleton.mp hmem
  refine ⟨?_, hstored, hname⟩
  rw [Tree.identity, ← hdef]

end World

/-! ## Visits to the sample site -/

namespace Sample

open Service (Turn Event)

/-- The front end asserts a name, while all servers of the world are up. -/
def visitAs (w : World) (name : String) : Turn :=
  ⟨⟨w.registry fun _ => false, .none, []⟩, now,
    .login (.singleSignOn ⟨[("REMOTE_USER", name)], "/", "localhost"⟩)⟩

end Sample

theorem sample_visits_hosted (w : World) (names : List String) :
    w.Hosts (names.map (Sample.visitAs w)) := by
  intro t ht
  obtain ⟨name, -, rfl⟩ := List.mem_map.mp ht
  exact ⟨_, rfl⟩

/-- What an event comes to. -/
def Service.Event.summary (e : Service.Event) : Option (Int × LoginMethod × Identity) :=
  e.outcome?.bind fun o => e.identity?.map fun i => (o.account.uid, o.method, i)

/-- A login of a history, read off the summary of its event. -/
theorem Service.logsIn_of_summary {c : Authentication} {ts : List Service.Turn} {e : Service.Event}
    {uid : Int} {m : LoginMethod} {i : Identity} (he : e ∈ (Service.start c).events ts)
    (h : e.summary = some (uid, m, i)) (hm : m ≠ .localPassword) :
    ∃ o, o.account.uid = uid ∧ LogsIn c ts i o := by
  obtain ⟨o, ho, hrest⟩ := Option.bind_eq_some_iff.mp h
  obtain ⟨j, hj, hall⟩ := Option.map_eq_some_iff.mp hrest
  cases hall
  exact ⟨o, rfl, e, he, ho, hm, hj⟩

/-- The logins of two visits, one after the other. -/
theorem Service.logsIn_of_visits {c : Authentication} {w : World} {n n' : String} {uid uid' : Int}
    {i i' : Identity} (sid : String)
    (h : (Event.mk (start c) (Sample.visitAs w n)).summary = some (uid, .singleSignOn sid, i))
    (h' : (Event.mk ((start c).step (Sample.visitAs w n)) (Sample.visitAs w n')).summary =
      some (uid', .singleSignOn sid, i')) :
    ∃ o o', o.account.uid = uid ∧ o'.account.uid = uid' ∧
      LogsIn c ([n, n'].map (Sample.visitAs w)) i o ∧
      LogsIn c ([n, n'].map (Sample.visitAs w)) i' o' := by
  have hevents : (start c).events ([n, n'].map (Sample.visitAs w)) =
      [⟨start c, Sample.visitAs w n⟩,
        ⟨(start c).step (Sample.visitAs w n), Sample.visitAs w n'⟩] := rfl
  obtain ⟨o, huid, ho⟩ := logsIn_of_summary (hevents ▸ List.mem_cons_self) h nofun
  obtain ⟨o', huid', ho'⟩ :=
    logsIn_of_summary (hevents ▸ List.mem_cons_of_mem _ List.mem_cons_self) h' nofun
  exact ⟨o, o', huid, huid', ho, ho'⟩

end DirectoryLogin
