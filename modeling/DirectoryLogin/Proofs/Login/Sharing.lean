import DirectoryLogin.Proofs.Login.World
import Mathlib.Data.List.Pairwise

/-!
# One account for two entries

Links are kept under one kind of key for two kinds of names: the persistent id of an entry, and
for an entry without one its account name in lower case. So two entries that share neither id nor
account name can still have one key, and then they share an account.

* `Identity.Clash`: the ways in which that comes about;
* `Tree.Distinct`: the entries of a tree share neither account names nor ids;
* `UnsharedAccounts`: the logins of a history share no account;
* `unsharedAccounts_iff`: among such entries, this holds just when no two logins clash.
-/

namespace DirectoryLogin

open Settings (Authentication)

/-! ## Keys -/

/-- The identities have one key, though neither an id nor an account name in common. -/
inductive Identity.Clash (i i' : Identity) : Prop
  /-- The id of the first is the account name of the second, which has no id. -/
  | idIsName : i.persistentId = some (authnameOf i'.accountName) → i'.persistentId = none →
      Clash i i'
  /-- The id of the second is the account name of the first, which has no id. -/
  | nameIsId : i.persistentId = none → i'.persistentId = some (authnameOf i.accountName) →
      Clash i i'
  /-- Neither has an id, and lower-casing makes one name of two that the store tells apart. -/
  | namesFold : i.persistentId = none → i'.persistentId = none →
      authnameOf i.accountName = authnameOf i'.accountName →
      Store.sameName i.accountName i'.accountName = false → Clash i i'

namespace Identity

variable {i i' : Identity}

theorem Clash.authname_eq (h : i.Clash i') : i.authname = i'.authname := by
  cases h with
  | idIsName hp hp' => rw [authname_of_id hp, authname_of_noId hp']
  | nameIsId hp hp' => rw [authname_of_noId hp, authname_of_id hp']
  | namesFold hp hp' hn _ => rw [authname_of_noId hp, authname_of_noId hp', hn]

theorem clash_of_authname_eq (h : i.authname = i'.authname)
    (hid : ∀ p, i.persistentId = some p → i'.persistentId ≠ some p)
    (hname : Store.sameName i.accountName i'.accountName = false) : i.Clash i' := by
  cases hp : i.persistentId with
  | none =>
    rw [authname_of_noId hp] at h
    cases hp' : i'.persistentId with
    | none => exact .namesFold hp hp' (h.trans (authname_of_noId hp')) hname
    | some p' =>
      obtain rfl := h.trans (authname_of_id hp')
      exact .nameIsId hp hp'
  | some p =>
    rw [authname_of_id hp] at h
    cases hp' : i'.persistentId with
    | none =>
      obtain rfl := h.trans (authname_of_noId hp')
      exact .idIsName hp hp'
    | some p' =>
      obtain rfl := h.trans (authname_of_id hp')
      exact absurd hp' (hid p hp)

end Identity

-- the store, which knows ASCII letter case only, would keep these two accounts apart
example : authnameOf "RENÉ" = authnameOf "rené" ∧ Store.sameName "RENÉ" "rené" = false := by
  decide +kernel

/-! ## Entries -/

/-- The entries of the tree share neither account names, as the store compares them, nor ids. The
account name of an entry can depend on the login name under which it is found. -/
structure Tree.Distinct (t : Tree) : Prop where
  names : t.entries.Pairwise fun a b => ∀ u v, t.answersTo a.entry u = true →
    t.answersTo b.entry v = true →
    Store.sameName (t.identity a.entry u).accountName (t.identity b.entry v).accountName = false
  ids : t.entries.Pairwise fun a b => ∀ u v p, (t.identity a.entry u).persistentId = some p →
    (t.identity b.entry v).persistentId ≠ some p

namespace World

variable {w : World} {t : Tree} {i i' : Identity}

/-- Two entries of the one tree of a world share neither account name nor id. -/
theorem Holds.distinct (ht : w.trees = [t]) (hd : t.Distinct) (h : w.Holds i) (h' : w.Holds i')
    (hne : i.entry.dn ≠ i'.entry.dn) :
    (∀ p, i.persistentId = some p → i'.persistentId ≠ some p) ∧
      Store.sameName i.accountName i'.accountName = false := by
  obtain ⟨hi, ⟨a, ha, hae⟩, hname⟩ := h.of_single ht
  obtain ⟨hi', ⟨b, hb, hbe⟩, hname'⟩ := h'.of_single ht
  have hab : a ≠ b := by
    rintro rfl
    exact hne (by rw [← hae, hbe])
  have hsymm : Std.Symm fun a b : StoredEntry =>
      (∀ u v p, (t.identity a.entry u).persistentId = some p →
        (t.identity b.entry v).persistentId ≠ some p) ∧
      ∀ u v, t.answersTo a.entry u = true → t.answersTo b.entry v = true →
        Store.sameName (t.identity a.entry u).accountName (t.identity b.entry v).accountName =
          false := by
    refine ⟨fun a b hab => ⟨fun u v p hp hp' => hab.1 v u p hp' hp, fun u v hu hv => ?_⟩⟩
    rw [Store.sameName_comm]
    exact hab.2 v u hv hu
  obtain ⟨hid, hnames⟩ := (hd.ids.and hd.names).forall ha hb hab
  rw [hae, hbe] at hid hnames
  rw [hi, hi']
  exact ⟨hid i.username i'.username, hnames i.username i'.username hname hname'⟩

end World

namespace Service

variable {c : Authentication} {ts : List Turn}

/-- Logins of the history that reach one account are by one entry. -/
def UnsharedAccounts (c : Authentication) (ts : List Turn) : Prop :=
  ∀ i i' o o', LogsIn c ts i o → LogsIn c ts i' o' → o.account.uid = o'.account.uid →
    i.entry.dn = i'.entry.dn

/-- Among entries that share neither account name nor id, logins share no account just when none
of them clash. -/
theorem unsharedAccounts_iff {w : World} {t : Tree} (ht : w.trees = [t]) (hd : t.Distinct)
    (hw : w.Hosts ts) : UnsharedAccounts c ts ↔
      ∀ i i' o o', LogsIn c ts i o → LogsIn c ts i' o' → i.entry.dn ≠ i'.entry.dn →
        ¬ i.Clash i' := by
  constructor
  · intro hall i i' o o' h h' hne hclash
    exact hne (hall i i' o o' h h' ((h.uid_eq_iff h').mpr hclash.authname_eq))
  · intro hall i i' o o' h h' huid
    by_contra hne
    obtain ⟨hid, hname⟩ := World.Holds.distinct ht hd (World.holds_of_logsIn hw h)
      (World.holds_of_logsIn hw h') hne
    have hkey := (h.uid_eq_iff h').mp huid
    exact hall i i' o o' h h' hne (Identity.clash_of_authname_eq hkey hid hname)

end Service

/-! ## Two persons who clash -/

namespace Sample

/-- A person without an id. -/
def hpotter : StoredEntry :=
  ⟨⟨"cn=hpotter,ou=people,dc=hogwarts,dc=edu", "hogwarts", [("uid", ["hpotter"])]⟩, "pass"⟩

/-- A person whose id is the account name of the other. -/
def dracom : StoredEntry :=
  ⟨⟨"cn=dracom,ou=people,dc=hogwarts,dc=edu", "hogwarts",
    [("uid", ["dracom"]), ("entryUUID", ["hpotter"])]⟩, "pass"⟩

def clashingTree : Tree := { tree with entries := [hpotter, dracom] }

def clashingWorld : World := ⟨[clashingTree], by decide +kernel⟩

/-- The two of them log in one after the other. -/
def clashingVisits : List Service.Turn := ["hpotter", "dracom"].map (visitAs clashingWorld)

end Sample

theorem clashingTree_distinct : Sample.clashingTree.Distinct where
  names := by
    have hp : (Sample.hpotter.entry.value? "uid").bind Text.nonBlank? = some "hpotter" := by
      decide +kernel
    have hd : (Sample.dracom.entry.value? "uid").bind Text.nonBlank? = some "dracom" := by
      decide +kernel
    refine List.pairwise_pair.mpr fun u v _ _ => ?_
    show Store.sameName (((Sample.hpotter.entry.value? "uid").bind Text.nonBlank?).getD u)
      (((Sample.dracom.entry.value? "uid").bind Text.nonBlank?).getD v) = false
    rw [hp, hd]
    show Store.sameName "hpotter" "dracom" = false
    decide +kernel
  ids := by
    have hp : (Sample.hpotter.entry.value? "entryUUID").bind Text.nonBlank? = none := by
      decide +kernel
    refine List.pairwise_pair.mpr fun u v p hid => ?_
    cases hp.symm.trans hid

/-- Both persons log in, and both come to account 2. -/
theorem clashingVisits_logsIn :
    ∃ o o', o.account.uid = 2 ∧ o'.account.uid = 2 ∧
      Service.LogsIn Sample.settings Sample.clashingVisits
        (Sample.clashingTree.identity Sample.hpotter.entry "hpotter") o ∧
      Service.LogsIn Sample.settings Sample.clashingVisits
        (Sample.clashingTree.identity Sample.dracom.entry "dracom") o' := by
  refine Service.logsIn_of_visits "hogwarts" ?_ ?_
  all_goals decide +kernel

theorem clashingVisits_shared :
    ¬ Service.UnsharedAccounts Sample.settings Sample.clashingVisits := by
  intro hall
  obtain ⟨o, o', huid, huid', ho, ho'⟩ := clashingVisits_logsIn
  exact absurd (hall _ _ o o' ho ho' (huid.trans huid'.symm)) (by decide +kernel)

theorem clashing_entries_share_account :
    Sample.clashingWorld.trees = [Sample.clashingTree] ∧ Sample.clashingTree.Distinct ∧
      Sample.clashingWorld.Hosts Sample.clashingVisits ∧
      ¬ Service.UnsharedAccounts Sample.settings Sample.clashingVisits :=
  ⟨rfl, clashingTree_distinct, sample_visits_hosted _ _, clashingVisits_shared⟩

/-- As the two persons share an account, some of their logins clash. -/
theorem clashingVisits_clash :
    Sample.clashingWorld.trees = [Sample.clashingTree] ∧ Sample.clashingTree.Distinct ∧
      Sample.clashingWorld.Hosts Sample.clashingVisits ∧
      ∃ i i' o o', Service.LogsIn Sample.settings Sample.clashingVisits i o ∧
        Service.LogsIn Sample.settings Sample.clashingVisits i' o' ∧ i.entry.dn ≠ i'.entry.dn ∧
        i.Clash i' := by
  have hhosts := sample_visits_hosted Sample.clashingWorld ["hpotter", "dracom"]
  refine ⟨rfl, clashingTree_distinct, hhosts, ?_⟩
  by_contra hnone
  apply clashingVisits_shared
  refine (Service.unsharedAccounts_iff rfl clashingTree_distinct hhosts).mpr ?_
  intro i i' o o' h h' hne hclash
  exact hnone ⟨i, i', o, o', h, h', hne, hclash⟩

end DirectoryLogin
