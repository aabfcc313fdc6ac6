import DirectoryLogin.Proofs.Account.WellFormed
import DirectoryLogin.Proofs.Login.Request
import Mathlib.Logic.Relation

/-!
# What logins write

A login changes the store by a few single writes, each made under conditions that the code has
checked by then. Every fact about runs is shown for one write and then holds of all of them.

* `Write` and `attempt_writes`: the writes, and that a login leaves behind what they make;
* `WellLinked`: an account has at most one link, and the site owner's account has none;
* `Writes.wellLinked`, `Writes.keeps_authmaps`, `Writes.owner`: no link is lost or changed, and
  the site owner's account stays as it is.
-/

namespace DirectoryLogin

open Settings (Authentication)
open Time (Instant)

variable {s s' : Store} {a b : Account}

/-- One write, with what is known when it is made. -/
inductive Write (s : Store) : Store → Prop
  | saved (name text : String) : Write s (s.saveSettings name text)
  | added (n : NewAccount) (excluded : Bool) (now : Instant) :
      s.nameTaken n.name = false → Write s (s.addAccount (s.nextAccount n excluded now))
  | touched (uid : Int) (now : Instant) : Write s (s.touchLogin uid now)
  | updated (m : Authmap) (t : Mapping.Terms) (mail : Option String) (a : Account) :
      m ∈ s.authmaps → Write s (s.modify m.uid (Mapping.update t mail a))
  | linked (i : Identity) (a : Account) :
      a ∈ s.accounts → a.bypassesDirectory = false → s.authmap a.uid directoryModule = none →
      s.link? directoryModule i.authname = none → Write s (Mapping.withLink s i a)
  | provisioned (t : Mapping.Terms) (i : Identity) :
      s.nameTaken i.accountName = false → s.link? directoryModule i.authname = none →
      Write s (Mapping.withNewcomer t i s)

/-- Any number of writes, one after another. -/
abbrev Writes : Store → Store → Prop := Relation.ReflTransGen Write

namespace Mapping

variable {t : Terms} {i : Identity}

theorem Linkable.write (h : Linkable t i s a) (hl : s.link? directoryModule i.authname = none) :
    Write s (withLink s i a) :=
  .linked i a (Store.accountByName_eq_some h.named).1 h.open_ h.free hl

/-- A mapping leaves behind what some writes make. -/
theorem Ending.writes {result : Except Failure Mapped} (h : Ending t i s result s') :
    Writes s s' := by
  cases h with
  | linked a hl hs =>
    obtain ⟨m, hm, -, -, hu⟩ := Store.accountByAuthname_eq_some hl
    rw [hu]
    exact .single (.updated m t _ a (Store.link?_eq_some hm).1)
  | associatedBlocked a h hl hs => exact .single (h.write hl)
  | associated a h hl hs =>
    have hm : s.nextAuthmap a.uid directoryModule i.authname ∈ (withLink s i a).authmaps :=
      List.mem_append_right _ (List.mem_singleton_self _)
    exact .tail (.single (h.write hl)) (.updated _ t _ a hm)
  | provisionUnreadable e h hn hl hr => exact .single (.provisioned t i hn hl)
  | provisioned h hn hl => exact .tail (.single (.provisioned t i hn hl)) (.touched _ _)
  | unreadableLink | linkedBlocked | unreadableName | bypassing | linkedElsewhere | rejected
  | linkRefused | creationDisabled | provisionRefused => exact .refl

end Mapping

/-- A login leaves behind what some writes make. -/
theorem LoginRequest.attempt_writes (r : Realm) (c : Authentication) (now : Instant) (s : Store)
    (q : LoginRequest) : Writes s (q.attempt r c now s).store := by
  rcases q.attempt_store r c now s with h | ⟨uid, h⟩ | ⟨t, i, h⟩
  · rw [h]
  · rw [h]
    exact .single (.touched uid now)
  · rw [h]
    exact (Mapping.map_ending t i s).writes

theorem Write.wellFormed (h : s.WellFormed) (hw : Write s s') : s'.WellFormed := by
  cases hw with
  | saved name text => exact { h with }
  | added n excluded now hn => exact h.addAccount rfl hn
  | touched uid now => exact h.modify uid (fun _ => rfl) fun _ => rfl
  | updated m t mail a hm => exact h.modify m.uid (fun _ => rfl) fun _ => rfl
  | linked i a ha hopen hfree hl => exact h.addAuthmap hl ⟨a, ha, rfl⟩
  | provisioned t i hn hl => exact h.addLinked rfl hn hl

theorem Writes.wellFormed (h : s.WellFormed) (hw : Writes s s') : s'.WellFormed := by
  induction hw with
  | refl => exact h
  | tail _ hw ih => exact hw.wellFormed ih

/-! ## Links -/

/-- What holds of the accounts and links that the service makes: no account has two links, and the
site owner's account has none. -/
structure WellLinked (s : Store) : Prop where
  wellFormed : s.WellFormed
  single : s.authmaps.Pairwise fun m m' => m.uid ≠ m'.uid
  module_eq : ∀ m ∈ s.authmaps, m.module = directoryModule
  uid_ne : ∀ m ∈ s.authmaps, m.uid ≠ siteOwnerUid

namespace WellLinked

theorem empty : WellLinked .empty :=
  ⟨.empty, .nil, fun _ hm => (nomatch hm), fun _ hm => (nomatch hm)⟩

/-- Two links of one account are the same. -/
theorem eq_of_uid (h : WellLinked s) {m m' : Authmap} (hm : m ∈ s.authmaps) (hm' : m' ∈ s.authmaps)
    (hu : m.uid = m'.uid) : m = m' := by
  have hn : (s.authmaps.map Authmap.uid).Nodup := List.pairwise_map.mpr h.single
  exact List.inj_on_of_nodup_map hn hm hm' hu

/-- Two links of one authname are the same. -/
theorem eq_of_authname (h : WellLinked s) {m m' : Authmap} (hm : m ∈ s.authmaps)
    (hm' : m' ∈ s.authmaps) (ha : m.authname = m'.authname) : m = m' := by
  have hn : (s.authmaps.map fun m => (m.module, m.authname)).Nodup := by
    refine List.pairwise_map.mpr (h.wellFormed.keys.imp fun hkey he => ?_)
    exact hkey (Prod.mk.inj he).1 (Prod.mk.inj he).2
  have hmodule : m.module = m'.module := (h.module_eq m hm).trans (h.module_eq m' hm').symm
  exact List.inj_on_of_nodup_map hn hm hm' (Prod.ext hmodule ha)

/-- A new link of an account that has none and is not the site owner's. -/
theorem addAuthmap (h : WellLinked s) {uid : Int} {authname : String}
    (hw : (s.addAuthmap (s.nextAuthmap uid directoryModule authname)).WellFormed)
    (hfree : ∀ m ∈ s.authmaps, m.uid ≠ uid) (hu : uid ≠ siteOwnerUid) :
    WellLinked (s.addAuthmap (s.nextAuthmap uid directoryModule authname)) where
  wellFormed := hw
  single := Store.pairwise_concat h.single hfree
  module_eq := Store.forall_mem_concat h.module_eq rfl
  uid_ne := Store.forall_mem_concat h.uid_ne hu

/-- The site owner's account, where there is none and the name is free. -/
theorem addOwner (h : WellLinked s) (hu : a.uid = siteOwnerUid)
    (hnew : ∀ b ∈ s.accounts, b.uid ≠ siteOwnerUid) (hn : s.nameTaken a.name = false) :
    WellLinked (s.addOwner a) :=
  { h with wellFormed := h.wellFormed.addOwner hu hnew hn }

theorem write (h : WellLinked s) (hw : Write s s') : WellLinked s' := by
  have hwf := hw.wellFormed h.wellFormed
  cases hw with
  | saved | added | touched | updated => exact { h with wellFormed := hwf }
  | linked i a ha hopen hfree hl =>
    refine h.addAuthmap hwf ?_ ?_
    · intro m hm hu
      exact Store.authmap_eq_none hfree m hm hu (h.module_eq m hm)
    · simp only [Account.bypassesDirectory, Account.isSiteOwner, Bool.or_eq_false_iff,
        beq_eq_false_iff_ne] at hopen
      exact hopen.1
  | provisioned t i hn hl =>
    have hadded : WellLinked (s.addAccount (Mapping.newcomer t i s)) :=
      { h with wellFormed := h.wellFormed.addAccount rfl hn }
    refine hadded.addAuthmap hwf h.wellFormed.next_unlinked ?_
    have := h.wellFormed.lastUid_ge
    show s.lastUid + 1 ≠ siteOwnerUid
    omega

theorem writes (h : WellLinked s) (hw : Writes s s') : WellLinked s' := by
  induction hw with
  | refl => exact h
  | tail _ hw ih => exact ih.write hw

end WellLinked

/-- Links stay where they are, and new ones come after them. -/
theorem Write.keeps_authmaps (hw : Write s s') : s.authmaps <+: s'.authmaps := by
  cases hw with
  | saved | added | touched | updated => exact List.prefix_rfl
  | linked | provisioned => exact List.prefix_append _ _

theorem Writes.keeps_authmaps (hw : Writes s s') : s.authmaps <+: s'.authmaps := by
  induction hw with
  | refl => exact List.prefix_rfl
  | tail _ hw ih => exact ih.trans hw.keeps_authmaps

/-! ## The site owner's account -/

/-- No write makes the site owner's account. -/
theorem Write.ownerless (h : s.WellFormed) (hw : Write s s')
    (hnew : ∀ a ∈ s.accounts, a.uid ≠ siteOwnerUid) : ∀ a ∈ s'.accounts, a.uid ≠ siteOwnerUid := by
  have hnext : s.lastUid + 1 ≠ siteOwnerUid := by
    have := h.lastUid_ge
    omega
  have hadd : ∀ a, a.uid = s.lastUid + 1 → ∀ b ∈ s.accounts ++ [a], b.uid ≠ siteOwnerUid := by
    intro a ha
    refine Store.forall_mem_concat hnew ?_
    rw [ha]
    exact hnext
  have hmodify : ∀ uid change, (∀ a : Account, (change a).uid = a.uid) →
      ∀ b ∈ (s.modify uid change).accounts, b.uid ≠ siteOwnerUid := by
    intro uid change hc b hb
    obtain ⟨a, ha, hu⟩ := Store.uid_of_mem_modify hc hb
    rw [hu]
    exact hnew a ha
  cases hw with
  | saved | linked => exact hnew
  | added n excluded now hn => exact hadd _ rfl
  | provisioned t i hn hl => exact hadd _ rfl
  | touched uid now => exact hmodify uid _ fun _ => rfl
  | updated m t mail a hm => exact hmodify m.uid _ fun _ => rfl

theorem Writes.ownerless (h : WellLinked s) (hw : Writes s s')
    (hnew : ∀ a ∈ s.accounts, a.uid ≠ siteOwnerUid) : ∀ a ∈ s'.accounts, a.uid ≠ siteOwnerUid := by
  induction hw with
  | refl => exact hnew
  | tail hws hw ih => exact hw.ownerless (h.writes hws).wellFormed ih

/-- A write leaves the site owner's account as it is, the time of the last login aside. -/
theorem Write.owner (h : WellLinked s) (hw : Write s s') (ha : a ∈ s.accounts)
    (hu : a.uid = siteOwnerUid) : ∃ at_, { a with lastLogin := at_ } ∈ s'.accounts := by
  cases hw with
  | saved | linked => exact ⟨a.lastLogin, ha⟩
  | added | provisioned => exact ⟨a.lastLogin, List.mem_append_left _ ha⟩
  | touched uid now =>
    by_cases he : a.uid = uid
    · exact ⟨some now, Store.mem_modify.mpr ⟨a, ha, by simp [he]⟩⟩
    · exact ⟨a.lastLogin, Store.mem_modify.mpr ⟨a, ha, by simp [he]⟩⟩
  | updated m t mail a' hm =>
    have he : a.uid ≠ m.uid := by
      rw [hu]
      exact (h.uid_ne m hm).symm
    exact ⟨a.lastLogin, Store.mem_modify.mpr ⟨a, ha, by simp [he]⟩⟩

theorem Writes.owner (h : WellLinked s) (hw : Writes s s') (ha : a ∈ s.accounts)
    (hu : a.uid = siteOwnerUid) : ∃ at_, { a with lastLogin := at_ } ∈ s'.accounts := by
  induction hw with
  | refl => exact ⟨a.lastLogin, ha⟩
  | tail hws hw ih =>
    obtain ⟨at_, hat⟩ := ih
    obtain ⟨at', hat'⟩ := hw.owner (h.writes hws) hat hu
    exact ⟨at', hat'⟩

end DirectoryLogin
