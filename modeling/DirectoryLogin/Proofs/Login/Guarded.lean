import DirectoryLogin.Proofs.Login.OwnerCheck
import DirectoryLogin.Proofs.Login.SavedSettings

/-!
# What single sign-on leaves alone

A visitor may be logged in without having asked for it. Such a login touches no settings, and it
does not help anybody to pass for the site owner: the credentials that the check for the pages
accepts afterwards were accepted before.

* `Mapping.Ending.readable_before`: an account that can be read after a mapping could be read
  before, unless the mapping made it;
* `Guarded` and `ssoLogin_guarded`: what is therefore left alone.
-/

namespace DirectoryLogin

open Settings (Authentication)
open Time (Instant)

/-! ## The site owner's account -/

/-- An account of the store can be read, and has the uid, the name and the password of `b`. -/
def Store.HasReadable (s : Store) (b : Account) : Prop :=
  ∃ a ∈ s.accounts, readAccount a = .ok a ∧ a.uid = b.uid ∧ a.name = b.name ∧
    a.passHash = b.passHash

/-- What can be read after a mapping, the account that it makes apart, could be read before. -/
theorem Mapping.Ending.readable_before {t : Mapping.Terms} {i : Identity} {s s' : Store}
    {result : Except Failure Mapped} (h : Ending t i s result s') (hs : s.WellFormed) {b : Account}
    (hb : b ∈ s'.accounts) (hr : Store.readAccount b = .ok b) (hu : b.uid ≤ s.lastUid) :
    s.HasReadable b := by
  have stored (hb : b ∈ s.accounts) : s.HasReadable b := ⟨b, hb, hr, rfl, rfl, rfl⟩
  -- An account is read before it is changed, so the changed one could be read.
  have updated {a : Account} (ha : a ∈ s.accounts) (hra : Store.readAccount a = .ok a)
      (hb : b ∈ (s.modify a.uid (update t (mailFor t.settings i) a)).accounts) :
      s.HasReadable b := by
    obtain ⟨row, hrow, rfl⟩ := Store.mem_modify.mp hb
    by_cases hrowu : row.uid = a.uid
    · obtain rfl := hs.eq_of_uid hrow ha hrowu
      exact ⟨row, hrow, hra, by simp [update]⟩
    · simp only [beq_iff_eq, hrowu, if_false] at hr ⊢
      exact ⟨row, hrow, hr, rfl, rfl, rfl⟩
  have older {a : Account} (ha : a ∈ s.accounts ++ [newcomer t i s]) (hau : a.uid ≤ s.lastUid) :
      a ∈ s.accounts := by
    rcases List.mem_append.mp ha with ha | ha
    · exact ha
    · have hnew : a.uid = s.lastUid + 1 := by rw [List.mem_singleton.mp ha]; rfl
      omega
  cases h with
  | linked a hl _ =>
    obtain ⟨m, -, hread, ha, -⟩ := Store.accountByAuthname_eq_some hl
    exact updated ha (Store.readOptional_eq_some_iff.mp hread).2 hb
  | associated a h _ _ =>
    have hread := (Store.readOptional_eq_some_iff.mp h.named).2
    exact updated (Store.accountByName_eq_some h.named).1 hread hb
  | provisionUnreadable e _ _ _ _ => exact stored (older hb hu)
  | provisioned _ _ _ =>
    obtain ⟨row, hrow, rfl⟩ := Store.mem_modify.mp hb
    by_cases hnew : row.uid = (newcomer t i s).uid
    · have huid : row.uid = s.lastUid + 1 := hnew
      simp only [hnew, beq_self_eq_true, if_true] at hu
      omega
    · simp only [beq_iff_eq, hnew, if_false] at hr hu ⊢
      exact ⟨row, older hrow hu, hr, rfl, rfl, rfl⟩
  | unreadableLink | linkedBlocked | unreadableName | bypassing | linkedElsewhere | rejected
  | linkRefused | associatedBlocked | creationDisabled | provisionRefused => exact stored hb

/-- A single sign-on leaves the store as it was or as the mapping of an identity does. -/
theorem ssoLogin_store (r : Realm) (c : Authentication) (now : Instant) (v : Visit) (s : Store) :
    (ssoLogin r c now v s).store = s ∨
      ∃ t i, (ssoLogin r c now v s).store = ((Mapping.map t i).run s).2 := by
  have hc := LoginRequest.ssoLogin_course r c now s v
  generalize ssoLogin r c now v s = t at hc
  cases hc with
  | refused _ f _ => exact .inl rfl
  | searched _ found t _ ht =>
    cases ht with
    | unresolved f _ => exact .inl rfl
    | turnedAway i f _ _ => exact .inl rfl
    | mapped i grants result s' _ _ hm => exact .inr ⟨_, i, by rw [hm]⟩

namespace Service

/-- The settings in force and the saved texts are the same. -/
structure SameSettings (s s' : Service) : Prop where
  live : s'.live = s.live
  saved : s'.store.settings = s.store.settings

/-- The settings are the same, and the site owner has no other credentials than before. -/
structure Guarded (s s' : Service) : Prop extends SameSettings s s' where
  credentials : ∀ name password a, s'.verifySiteOwner name password = .ok a →
    ∃ b, s.verifySiteOwner name password = .ok b

theorem SameSettings.refl (s : Service) : SameSettings s s := ⟨rfl, rfl⟩

theorem Guarded.refl (s : Service) : Guarded s s := ⟨.refl s, fun _ _ a h => ⟨a, h⟩⟩

theorem ssoLogin_guarded {s : Service} (h : s.store.WellFormed) (r : Realm) (now : Instant)
    (v : Visit) : Guarded s { s with store := (s.ssoLogin r now v).store } where
  live := rfl
  saved := s.ssoLogin_keeps_settings r now v
  credentials name password b hb := by
    have hcred := verifySiteOwner_eq_ok_iff.mp hb
    rcases ssoLogin_store r s.live now v s.store with hs | ⟨t, i, hs⟩
    · have same : { s with store := (s.ssoLogin r now v).store } = s :=
        congrArg (Service.mk · s.live) hs
      exact ⟨b, same ▸ hb⟩
    · have hmem := (Store.accountByName_eq_some hcred.named).1
      have hname := (Store.accountByName_eq_some hcred.named).2
      have hread := (Store.readOptional_eq_some_iff.mp hcred.named).2
      have hend := Mapping.map_ending t i s.store
      have hle : b.uid ≤ s.store.lastUid := by rw [hcred.owner]; exact h.lastUid_ge
      obtain ⟨a, ha, hra, huid, hn, hhash⟩ := hend.readable_before h (hs ▸ hmem) hread hle
      have hnamed := h.accountByName_of_mem ha hra (hn ▸ hname)
      refine ⟨a, verifySiteOwner_eq_ok_iff.mpr ⟨hnamed, huid.trans hcred.owner, ?_⟩⟩
      simpa only [Account.acceptsPassword, hhash] using hcred.accepted

end Service

end DirectoryLogin
