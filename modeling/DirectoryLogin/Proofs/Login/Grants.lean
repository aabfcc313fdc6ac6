import DirectoryLogin.Proofs.Login.GroupNames
import Mathlib.Data.List.Forall2

/-!
# Roles from groups

The roles of an entry are collected from the mappings, one after the other.

* `GrantedAt`: the mapping at a place grants a role for a list of groups;
* `Collected`: what has been collected from the mappings before a place. `Collected.step` goes one
  mapping further, `Collected.rolesFrom` to the end;
* `rolesFrom_congr`: roles are the same for mappings that grant the same in their places;
* `grants_spec`: the roles of an entry are those of the mappings that name one of its groups, each
  once and in the order of their first such mappings. They depend on the set of groups only, grow
  with it, and are the same for all spellings of the names.
-/

namespace DirectoryLogin.Groups

open Settings (Authorization GroupMapping)

variable {c c' : Authorization} {groups groups' roles : List String} {role : String}

/-! ## The loop over the mappings -/

/-- The mapping at a place grants the role: it names one of the groups. -/
def GrantedAt (c : Authorization) (groups : List String) (i : Nat) (role : String) : Prop :=
  ∃ m, c.mappings[i]? = some m ∧ m.role = role ∧ ∃ g ∈ groups, Names c.caseSensitive m.group g

/-- The mapping is the first that grants the role. -/
structure FirstAt (c : Authorization) (groups : List String) (i : Nat) (role : String) : Prop where
  granted : GrantedAt c groups i role
  first : ∀ j < i, ¬ GrantedAt c groups j role

/-- The first mapping that grants one role comes before the first that grants the other. -/
def Precedes (c : Authorization) (groups : List String) (role role' : String) : Prop :=
  ∀ i j, FirstAt c groups i role → FirstAt c groups j role' → i < j

/-- What has been collected from the mappings before the place `k`. -/
structure Collected (c : Authorization) (groups : List String) (k : Nat) (roles : List String) :
    Prop where
  nodup : roles.Nodup
  mem_iff : ∀ role, role ∈ roles ↔ ∃ i < k, GrantedAt c groups i role
  ordered : roles.Pairwise (Precedes c groups)

/-- The roles after one more mapping. -/
def collect (caseSensitive : Bool) (groups : List String) (roles : List String) (m : GroupMapping) :
    List String :=
  if !roles.contains m.role && groups.any (isNamedBy caseSensitive m.group) then roles ++ [m.role]
  else roles

theorem rolesFrom_cons (caseSensitive : Bool) (groups roles : List String) (m : GroupMapping)
    (rest : List GroupMapping) : rolesFrom caseSensitive groups roles (m :: rest) =
      rolesFrom caseSensitive groups (collect caseSensitive groups roles m) rest := by
  rw [rolesFrom, collect, apply_ite (rolesFrom caseSensitive groups · rest)]

theorem Collected.nil (c : Authorization) (groups : List String) : Collected c groups 0 [] where
  nodup := List.nodup_nil
  mem_iff role := by simp
  ordered := .nil

/-- The mapping at a place names one of the groups. -/
theorem grantedAt_iff {i : Nat} {m : GroupMapping} (hm : c.mappings[i]? = some m) :
    GrantedAt c groups i role ↔
      m.role = role ∧ groups.any (isNamedBy c.caseSensitive m.group) = true := by
  simp only [GrantedAt, hm, Option.some.injEq, exists_eq_left', List.any_eq_true, isNamedBy_iff]

theorem Collected.step {k : Nat} {m : GroupMapping} (h : Collected c groups k roles)
    (hm : c.mappings[k]? = some m) :
    Collected c groups (k + 1) (collect c.caseSensitive groups roles m) := by
  have hsplit : ∀ role, (∃ i < k + 1, GrantedAt c groups i role) ↔
      role ∈ roles ∨ GrantedAt c groups k role := by
    intro role
    rw [h.mem_iff]
    constructor
    · rintro ⟨i, hi, hgranted⟩
      rcases Nat.lt_succ_iff_lt_or_eq.mp hi with hi | rfl
      · exact .inl ⟨i, hi, hgranted⟩
      · exact .inr hgranted
    · rintro (⟨i, hi, hgranted⟩ | hgranted)
      · exact ⟨i, Nat.lt_succ_of_lt hi, hgranted⟩
      · exact ⟨k, Nat.lt_succ_self k, hgranted⟩
  unfold collect
  split
  · rename_i hnew
    simp only [Bool.and_eq_true, Bool.not_eq_true', List.contains_eq_mem,
      decide_eq_false_iff_not] at hnew
    obtain ⟨hnew, hnamed⟩ := hnew
    have hgranted : ∀ role, GrantedAt c groups k role ↔ m.role = role := fun role => by
      rw [grantedAt_iff hm, and_iff_left hnamed]
    refine ⟨?_, fun role => ?_, ?_⟩
    · refine List.nodup_append.mpr ⟨h.nodup, List.pairwise_singleton _ _, fun r hr r' hr' => ?_⟩
      rintro rfl
      exact hnew (List.mem_singleton.mp hr' ▸ hr)
    · rw [hsplit, hgranted, List.mem_append, List.mem_singleton, eq_comm]
    · refine List.pairwise_append.mpr ⟨h.ordered, List.pairwise_singleton _ _, ?_⟩
      intro role hrole role' hrole' i j hi hj
      rw [List.mem_singleton.mp hrole'] at hj
      -- The old role is first granted before `k`, the new one not before `k`.
      obtain ⟨i', hi', hgranted'⟩ := (h.mem_iff role).mp hrole
      have hik : i < k := by
        by_contra hki
        exact hi.first i' (by omega) hgranted'
      have hkj : k ≤ j := by
        by_contra hjk
        exact hnew ((h.mem_iff m.role).mpr ⟨j, by omega, hj.granted⟩)
      omega
  · rename_i hold
    refine ⟨h.nodup, fun role => ?_, h.ordered⟩
    rw [hsplit, or_iff_left_of_imp]
    rw [grantedAt_iff hm]
    rintro ⟨rfl, hnamed⟩
    simpa [hnamed] using hold

theorem Collected.rolesFrom {k : Nat} (hk : k ≤ c.mappings.length)
    (h : Collected c groups k roles) : Collected c groups c.mappings.length
      (rolesFrom c.caseSensitive groups roles (c.mappings.drop k)) := by
  induction hrest : c.mappings.drop k generalizing k roles with
  | nil =>
    have hend : k = c.mappings.length := Nat.le_antisymm hk (List.drop_eq_nil_iff.mp hrest)
    rwa [hend] at h
  | cons m rest ih =>
    have hm : c.mappings[k]? = some m := by rw [← List.head?_drop, hrest, List.head?_cons]
    have hlt : k < c.mappings.length := (List.getElem?_eq_some_iff.mp hm).1
    have htail : c.mappings.drop (k + 1) = rest := by rw [← List.tail_drop, hrest, List.tail_cons]
    rw [rolesFrom_cons]
    exact ih hlt (h.step hm) htail

/-- Roles are the same for mappings that grant the same in their places. -/
theorem rolesFrom_congr {caseSensitive caseSensitive' : Bool} {ms ms' : List GroupMapping}
    (h : List.Forall₂ (fun m m' => m.role = m'.role ∧
      groups.any (isNamedBy caseSensitive m.group) =
        groups'.any (isNamedBy caseSensitive' m'.group)) ms ms') (roles : List String) :
    rolesFrom caseSensitive groups roles ms = rolesFrom caseSensitive' groups' roles ms' := by
  induction h generalizing roles with
  | nil => rw [rolesFrom, rolesFrom]
  | cons hm _ ih =>
    rw [rolesFrom_cons, rolesFrom_cons, collect, hm.1, hm.2]
    exact ih _

/-! ## The roles of an entry -/

/-- The values of an entry that are taken for its groups. -/
def groupsOf (c : Authorization) (e : Entry) (groupAttribute : String) : List String :=
  e.values (attributeName c groupAttribute)

theorem grants_eq (henabled : c.enabled = true) (e : Entry) (groupAttribute : String) :
    grants c e groupAttribute =
      rolesFrom c.caseSensitive (groupsOf c e groupAttribute) [] c.mappings :=
  if_pos henabled

/-- The same settings, up to the spelling of the groups that they name and the attribute in which
groups are listed. -/
structure AlikeSettings (c c' : Authorization) : Prop where
  enabled : c'.enabled = c.enabled
  caseSensitive : c'.caseSensitive = c.caseSensitive
  mappings : List.Forall₂ (fun m m' => m.role = m'.role ∧ Alike c.caseSensitive m.group m'.group)
    c.mappings c'.mappings

theorem any_isNamedBy_congr {caseSensitive : Bool} {name name' : String}
    (hname : Alike caseSensitive name name')
    (hgroups : List.Forall₂ (Alike caseSensitive) groups groups') :
    groups.any (isNamedBy caseSensitive name) = groups'.any (isNamedBy caseSensitive name') := by
  induction hgroups with
  | nil => rw [List.any_nil, List.any_nil]
  | cons hgroup _ ih =>
    rw [List.any_cons, List.any_cons, ih,
      isNamedBy_congr (components_eq_of_alike hname) (components_eq_of_alike hgroup)]

theorem grants_collected (henabled : c.enabled = true) (e : Entry) (groupAttribute : String) :
    Collected c (groupsOf c e groupAttribute) c.mappings.length (grants c e groupAttribute) := by
  rw [grants_eq henabled]
  exact (Collected.nil c _).rolesFrom (Nat.zero_le _)

theorem mem_grants_iff (henabled : c.enabled = true) (e : Entry) (groupAttribute : String) :
    role ∈ grants c e groupAttribute ↔ ∃ i, GrantedAt c (groupsOf c e groupAttribute) i role := by
  rw [(grants_collected henabled e groupAttribute).mem_iff]
  refine ⟨fun ⟨i, _, h⟩ => ⟨i, h⟩, fun ⟨i, h⟩ => ⟨i, ?_, h⟩⟩
  obtain ⟨m, hm, -⟩ := h
  exact (List.getElem?_eq_some_iff.mp hm).1

theorem GrantedAt.mono {i : Nat} (hsub : ∀ g ∈ groups, g ∈ groups')
    (h : GrantedAt c groups i role) : GrantedAt c groups' i role := by
  obtain ⟨m, hm, hrole, g, hg, hnames⟩ := h
  exact ⟨m, hm, hrole, g, hsub g hg, hnames⟩

/-- The roles of an entry are those of the mappings that name one of its groups, each once and in
the order of the first such mappings. They depend on the set of the groups only, an entry with more
groups has all of them and perhaps more, and they are the same for all spellings of the names. -/
theorem grants_spec (henabled : c.enabled = true) (e : Entry) (groupAttribute : String) :
    let groups := groupsOf c e groupAttribute
    let roles := grants c e groupAttribute
    (Provider.ofSettings c).grants e groupAttribute = .ok roles ∧ roles.Nodup ∧
      (∀ role, role ∈ roles ↔ ∃ i, GrantedAt c groups i role) ∧
      roles.Pairwise (Precedes c groups) ∧
      (∀ e' groupAttribute', (∀ g, g ∈ groupsOf c e' groupAttribute' ↔ g ∈ groups) →
        grants c e' groupAttribute' = roles) ∧
      (∀ e' groupAttribute', (∀ g ∈ groups, g ∈ groupsOf c e' groupAttribute') →
        ∀ role ∈ roles, role ∈ grants c e' groupAttribute') ∧
      ∀ c' e' groupAttribute', AlikeSettings c c' →
        List.Forall₂ (Alike c.caseSensitive) groups (groupsOf c' e' groupAttribute') →
          grants c' e' groupAttribute' = roles := by
  intro groups roles
  have hcollected := grants_collected henabled e groupAttribute
  refine ⟨rfl, hcollected.nodup, fun role => mem_grants_iff henabled e groupAttribute,
    hcollected.ordered, ?_, ?_, ?_⟩
  · intro e' groupAttribute' hset
    have hany : ∀ p : String → Bool, (groupsOf c e' groupAttribute').any p = groups.any p := by
      intro p
      rw [Bool.eq_iff_iff]
      simp only [List.any_eq_true, hset]
    simp only [roles, grants_eq henabled]
    exact rolesFrom_congr (List.forall₂_same.mpr fun m _ => ⟨rfl, hany _⟩) []
  · intro e' groupAttribute' hsub role hrole
    rw [mem_grants_iff henabled] at hrole ⊢
    obtain ⟨i, hgranted⟩ := hrole
    exact ⟨i, hgranted.mono hsub⟩
  · intro c' e' groupAttribute' hc hgroups
    simp only [roles, grants_eq henabled, grants_eq (hc.enabled.trans henabled), hc.caseSensitive]
    refine (rolesFrom_congr (hc.mappings.imp fun m m' hm => ⟨hm.1, ?_⟩) []).symm
    exact any_isNamedBy_congr hm.2 hgroups

namespace Sample

/-- Settings that name a group in full, one by its common name, and one for a role that is named
before. -/
def houses : Authorization :=
  ⟨true, "local_role", none, [⟨"cn=Gryffindor, ou=groups", "student"⟩, ⟨"quidditch", "athlete"⟩,
    ⟨"prefects", "student"⟩], false⟩

/-- An entry in three groups, spelled in several ways. -/
def player : Entry :=
  ⟨"uid=hpotter,ou=people", "hogwarts", [("memberOf",
    ["CN=Quidditch , ou=groups", "cn=gryffindor,ou=Groups", "cn=prefects,ou=groups"])]⟩

/-- The same groups in another order. -/
def playerAgain : Entry :=
  ⟨"uid=hpotter,ou=people", "hogwarts", [("memberOf",
    ["cn=gryffindor,ou=Groups", "cn=prefects,ou=groups", "CN=Quidditch , ou=groups"])]⟩

end Sample

theorem sample_grants : grants Sample.houses Sample.player "memberOf" = ["student", "athlete"] ∧
    grants Sample.houses Sample.playerAgain "memberOf" = ["student", "athlete"] := by
  obtain ⟨-, -, -, -, hset, -⟩ := grants_spec (c := Sample.houses) rfl Sample.player "memberOf"
  have hroles : grants Sample.houses Sample.player "memberOf" = ["student", "athlete"] := by
    decide +kernel
  have hperm : (groupsOf Sample.houses Sample.playerAgain "memberOf").Perm
      (groupsOf Sample.houses Sample.player "memberOf") := by
    decide +kernel
  exact ⟨hroles, (hset Sample.playerAgain "memberOf" fun _ => hperm.mem_iff).trans hroles⟩

end DirectoryLogin.Groups
