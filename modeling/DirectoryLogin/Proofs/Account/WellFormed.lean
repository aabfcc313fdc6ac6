import DirectoryLogin.Proofs.Account.Store
import Mathlib.Data.List.Nodup
import Mathlib.Data.List.Pairwise

/-!
# Well-formed stores

What holds of every store that is built from the empty one by calls, whatever the calls are.

* `WellFormed`: accounts stand in the order of their uids, uids and ids of links are given out
  once, names and links are unique, and a link has its account;
* `perform_wellFormed`: every call keeps a store well formed.
-/

namespace DirectoryLogin.Store

open Time (Instant)

variable {s : Store}

theorem sameName_comm (x y : String) : sameName x y = sameName y x := by
  simp only [sameName, Text.sameAscii, BEq.comm (a := x.utf8ByteSize),
    BEq.comm (a := Text.lowerAscii (comparedPart x))]

theorem sameName_of_common {x y z : String} (hx : sameName x z = true) (hy : sameName y z = true) :
    sameName x y = true := by
  simp only [sameName, Text.sameAscii, Bool.and_eq_true, beq_iff_eq] at hx hy ⊢
  exact ⟨hx.1.trans hy.1.symm, hx.2.trans hy.2.symm⟩

theorem forall_mem_concat {α : Type} {P : α → Prop} {l : List α} {x : α} (h : ∀ y ∈ l, P y)
    (hx : P x) : ∀ y ∈ l ++ [x], P y :=
  List.forall_mem_append.mpr ⟨h, List.forall_mem_singleton.mpr hx⟩

theorem pairwise_concat {α : Type} {R : α → α → Prop} {l : List α} {x : α} (h : l.Pairwise R)
    (hx : ∀ y ∈ l, R y x) : (l ++ [x]).Pairwise R := by
  refine List.pairwise_append.mpr ⟨h, List.pairwise_singleton R x, fun y hy z hz => ?_⟩
  obtain rfl := List.mem_singleton.mp hz
  exact hx y hy

/-- What holds of every store that calls build. -/
structure WellFormed (s : Store) : Prop where
  uids : s.accounts.Pairwise fun a b => a.uid < b.uid
  uid_ge : ∀ a ∈ s.accounts, siteOwnerUid ≤ a.uid
  uid_le : ∀ a ∈ s.accounts, a.uid ≤ s.lastUid
  lastUid_ge : siteOwnerUid ≤ s.lastUid
  names : s.accounts.Pairwise fun a b => sameName a.name b.name = false
  aids : s.authmaps.Pairwise fun m m' => m.aid < m'.aid
  aid_le : ∀ m ∈ s.authmaps, m.aid ≤ s.lastAid
  keys : s.authmaps.Pairwise fun m m' => m.module = m'.module → m.authname ≠ m'.authname
  linked : ∀ m ∈ s.authmaps, ∃ a ∈ s.accounts, a.uid = m.uid

namespace WellFormed

theorem empty : WellFormed .empty := by
  constructor <;> simp [Store.empty, siteOwnerUid]

/-- Two stored accounts with one uid are the same. -/
theorem eq_of_uid (h : WellFormed s) {a b : Account} (ha : a ∈ s.accounts) (hb : b ∈ s.accounts)
    (hu : a.uid = b.uid) : a = b := by
  have hn : (s.accounts.map Account.uid).Nodup :=
    List.pairwise_map.mpr (h.uids.imp fun hab => Int.ne_of_lt hab)
  exact List.inj_on_of_nodup_map hn ha hb hu

theorem row?_of_mem (h : WellFormed s) {a : Account} (ha : a ∈ s.accounts) :
    s.row? a.uid = some a := by
  obtain ⟨b, hb⟩ : ∃ b, s.row? a.uid = some b :=
    Option.isSome_iff_exists.mp (List.find?_isSome.mpr ⟨a, ha, by simp⟩)
  have hu : b.uid = a.uid := by simpa using List.find?_some hb
  rw [hb, h.eq_of_uid (List.mem_of_find?_eq_some hb) ha hu]

/-- A change to a stored account leaves all others as they are, and where they are. -/
theorem modify_of_mem (h : WellFormed s) {a : Account} (ha : a ∈ s.accounts)
    (change : Account → Account) :
    ∃ before after, s.accounts = before ++ a :: after ∧
      (s.modify a.uid change).accounts = before ++ change a :: after := by
  obtain ⟨before, after, hs⟩ := List.append_of_mem ha
  have huids := h.uids
  rw [hs, List.pairwise_append, List.pairwise_cons] at huids
  obtain ⟨-, ⟨hafter, -⟩, hbefore⟩ := huids
  refine ⟨before, after, hs, ?_⟩
  rw [Store.modify, hs, List.map_append, List.map_cons, map_change_of_ne, map_change_of_ne]
  · simp
  · exact fun b hb => (Int.ne_of_lt (hafter b hb)).symm
  · exact fun b hb => Int.ne_of_lt (hbefore b hb a List.mem_cons_self)

/-- Two stored accounts with one name are the same. -/
theorem eq_of_name (h : WellFormed s) {a b : Account} (ha : a ∈ s.accounts) (hb : b ∈ s.accounts)
    (hn : sameName a.name b.name = true) : a = b := by
  have hsymm : Std.Symm fun a b : Account => sameName a.name b.name = false :=
    ⟨fun a b hab => (sameName_comm b.name a.name).trans hab⟩
  by_contra hne
  have hdistinct : sameName a.name b.name = false := h.names.forall ha hb hne
  rw [hn] at hdistinct
  cases hdistinct

/-- A stored account that can be read is found by its name. -/
theorem accountByName_of_mem (h : WellFormed s) {a : Account} {name : String}
    (ha : a ∈ s.accounts) (hr : readAccount a = .ok a)
    (hn : sameName a.name (Text.trim name) = true) : s.accountByName name = .ok (some a) := by
  refine readOptional_eq_some_iff.mpr ⟨?_, hr⟩
  cases hf : s.accounts.find? (sameName ·.name (Text.trim name)) with
  | none => exact absurd hn (List.find?_eq_none.mp hf a ha)
  | some b =>
    have hb := List.find?_some (p := fun b : Account => sameName b.name (Text.trim name)) hf
    rw [h.eq_of_name (List.mem_of_find?_eq_some hf) ha (sameName_of_common hb hn)]

/-- A link has its account, so an identity without an account has no link. -/
theorem link?_of_unlinked (h : WellFormed s) {module authname : String}
    (hl : s.accountByAuthname module authname = .ok none) : s.link? module authname = none := by
  cases hm : s.link? module authname with
  | none => rfl
  | some m =>
    have hm' : s.authmaps.find? (fun m => m.module == module && m.authname == authname) =
        some m := hm
    simp only [accountByAuthname, hm'] at hl
    obtain ⟨a, ha, hu⟩ := h.linked m (link?_eq_some hm).1
    exact absurd hu (account_eq_none hl a ha)

/-- The uid given out next is not in use, and no link points at it. -/
theorem next_unlinked (h : WellFormed s) : ∀ m ∈ s.authmaps, m.uid ≠ s.lastUid + 1 := by
  intro m hm he
  obtain ⟨a, ha, hu⟩ := h.linked m hm
  have := h.uid_le a ha
  omega

/-- Changes that keep the uid and the name. -/
theorem modify (h : WellFormed s) (uid : Int) {change : Account → Account}
    (hu : ∀ a, (change a).uid = a.uid) (hn : ∀ a, (change a).name = a.name) :
    WellFormed (s.modify uid change) := by
  have huid : ∀ a : Account, (if a.uid == uid then change a else a).uid = a.uid := by
    intro a
    split
    · exact hu a
    · rfl
  have hname : ∀ a : Account, (if a.uid == uid then change a else a).name = a.name := by
    intro a
    split
    · exact hn a
    · rfl
  refine { h with uids := ?_, uid_ge := ?_, uid_le := ?_, names := ?_, linked := ?_ }
  · simpa only [Store.modify, List.pairwise_map, huid] using h.uids
  · intro b hb
    obtain ⟨a, ha, rfl⟩ := mem_modify.mp hb
    rw [huid]
    exact h.uid_ge a ha
  · intro b hb
    obtain ⟨a, ha, rfl⟩ := mem_modify.mp hb
    rw [huid]
    exact h.uid_le a ha
  · simpa only [Store.modify, List.pairwise_map, hname] using h.names
  · intro m hm
    obtain ⟨a, ha, hau⟩ := h.linked m hm
    exact ⟨_, mem_modify.mpr ⟨a, ha, rfl⟩, (huid a).trans hau⟩

/-- An account with the next uid and a name that is free. -/
theorem addAccount (h : WellFormed s) {a : Account} (hu : a.uid = s.lastUid + 1)
    (hn : s.nameTaken a.name = false) : WellFormed (s.addAccount a) := by
  have hfree : ∀ b ∈ s.accounts, sameName b.name a.name = false := by
    simpa [nameTaken] using hn
  have hlast := h.lastUid_ge
  refine { h with
    uids := ?_, uid_ge := ?_, uid_le := ?_, lastUid_ge := ?_, names := ?_, linked := ?_ }
  · refine pairwise_concat h.uids fun b hb => ?_
    have := h.uid_le b hb
    omega
  · refine forall_mem_concat h.uid_ge ?_
    omega
  · refine forall_mem_concat (fun b hb => ?_) (Int.le_refl _)
    show b.uid ≤ a.uid
    have := h.uid_le b hb
    omega
  · show siteOwnerUid ≤ a.uid
    omega
  · exact pairwise_concat h.names hfree
  · intro m hm
    obtain ⟨b, hb, hbu⟩ := h.linked m hm
    exact ⟨b, List.mem_append_left _ hb, hbu⟩

/-- The site owner's account, where there is none and the name is free. -/
theorem addOwner (h : WellFormed s) {a : Account} (hu : a.uid = siteOwnerUid)
    (hnew : ∀ b ∈ s.accounts, b.uid ≠ siteOwnerUid) (hn : s.nameTaken a.name = false) :
    WellFormed (s.addOwner a) := by
  have hfree : ∀ b ∈ s.accounts, sameName b.name a.name = false := by
    simpa [nameTaken] using hn
  have hlast := h.lastUid_ge
  refine { h with uids := ?_, uid_ge := ?_, uid_le := ?_, names := ?_, linked := ?_ }
  · refine List.pairwise_cons.mpr ⟨fun b hb => ?_, h.uids⟩
    have := h.uid_ge b hb
    have := hnew b hb
    omega
  · intro b hb
    rcases List.mem_cons.mp hb with rfl | hb
    · omega
    · exact h.uid_ge b hb
  · intro b hb
    rcases List.mem_cons.mp hb with rfl | hb
    · show b.uid ≤ s.lastUid
      omega
    · exact h.uid_le b hb
  · refine List.pairwise_cons.mpr ⟨fun b hb => ?_, h.names⟩
    rw [sameName_comm]
    exact hfree b hb
  · intro m hm
    obtain ⟨b, hb, hbu⟩ := h.linked m hm
    exact ⟨b, List.mem_cons_of_mem _ hb, hbu⟩

/-- A link under the next id, of an account that exists to an identity that has none. -/
theorem addAuthmap (h : WellFormed s) {uid : Int} {module authname : String}
    (hl : s.link? module authname = none) (hu : ∃ a ∈ s.accounts, a.uid = uid) :
    WellFormed (s.addAuthmap (s.nextAuthmap uid module authname)) := by
  have hfree := link?_eq_none_iff.mp hl
  refine { h with aids := ?_, aid_le := ?_, keys := ?_, linked := ?_ }
  · refine pairwise_concat h.aids fun m hm => ?_
    show m.aid < s.lastAid + 1
    have := h.aid_le m hm
    omega
  · refine forall_mem_concat (fun m hm => ?_) (Int.le_refl _)
    show m.aid ≤ s.lastAid + 1
    have := h.aid_le m hm
    omega
  · exact pairwise_concat h.keys hfree
  · exact forall_mem_concat h.linked hu

/-- A new account together with its link. -/
theorem addLinked (h : WellFormed s) {a : Account} {module authname : String}
    (hu : a.uid = s.lastUid + 1) (hn : s.nameTaken a.name = false)
    (hl : s.link? module authname = none) : WellFormed (s.addLinked a module authname) :=
  (h.addAccount hu hn).addAuthmap hl ⟨a, List.mem_append_right _ (List.mem_singleton_self a), rfl⟩

end WellFormed

/-! ## Calls -/

theorem perform_wellFormed (h : WellFormed s) (c : Call) : WellFormed (s.perform c).2 := by
  cases c with
  | createAccount n now =>
    show WellFormed (s.createAccount n now).2
    rcases createAccount_cases s n now with he | ⟨hn, he⟩
    · rw [he]
      exact h
    · rw [he]
      exact h.addAccount rfl hn
  | ensureSiteOwner n now =>
    show WellFormed (s.ensureSiteOwner n now).2
    rcases ensureSiteOwner_cases s n now with he | ⟨hnew, hn, he⟩
    · rw [he]
      exact h
    · rw [he]
      exact h.addOwner rfl hnew hn
  | createAuthmap uid module authname =>
    show WellFormed (s.createAuthmap uid module authname).2
    rcases createAuthmap_cases s uid module authname with ⟨e, he⟩ | ⟨hl, hu, he⟩
    · rw [he]
      exact h
    · rw [he]
      exact h.addAuthmap hl hu
  | provisionAccount n module authname now =>
    show WellFormed (s.provisionAccount n module authname now).2
    rcases provisionAccount_cases s n module authname now with ⟨e, he⟩ | ⟨hn, hl, he⟩
    · rw [he]
      exact h
    · rw [he]
      exact h.addLinked rfl hn hl
  | updateMail uid mail => exact h.modify uid (fun _ => rfl) fun _ => rfl
  | updateRoles uid roles => exact h.modify uid (fun _ => rfl) fun _ => rfl
  | setStatus uid status => exact h.modify uid (fun _ => rfl) fun _ => rfl
  | setLdapExcluded uid excluded => exact h.modify uid (fun _ => rfl) fun _ => rfl
  | touchLogin uid at_ => exact h.modify uid (fun _ => rfl) fun _ => rfl
  | saveSettings name text => exact { h with }
  | account uid => exact h
  | accountByName name => exact h
  | listAccounts => exact h
  | accountByAuthname module authname => exact h
  | authmap uid module => exact h
  | savedSettings name => exact h
  | healthCheck => exact h
  | reopen => exact h

end DirectoryLogin.Store
