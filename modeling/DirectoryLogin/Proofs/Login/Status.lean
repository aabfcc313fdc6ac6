import DirectoryLogin.Proofs.Login.Writes

/-!
# The status of accounts that log in

A login looks at the status of an account that is there already, and makes new accounts active. No
write of a login changes a status, so what it has seen still holds when it is over.

* `Store.status?`: the stored status of an account;
* `Mapping.Ending.status_of_ok`: a mapping gives an account that is active, and was if it existed;
* `LoginRequest.attempt_status`: so does every login.
-/

namespace DirectoryLogin

open Settings (Authentication)
open Time (Instant)

namespace Store

variable {s : Store} {a : Account} {uid : Int}

/-- The stored status of the account with a uid. -/
def status? (s : Store) (uid : Int) : Option Account.Status :=
  (s.accounts.find? (·.uid == uid)).map Account.status

theorem status?_of_mem (h : s.WellFormed) (ha : a ∈ s.accounts) : s.status? a.uid = some a.status :=
  congrArg (Option.map Account.status) (h.row?_of_mem ha)

theorem status?_eq_none (h : ∀ a ∈ s.accounts, a.uid ≠ uid) : s.status? uid = none :=
  congrArg (Option.map Account.status) (row?_eq_none_iff.mpr h)

/-- A change that keeps uids and statuses. -/
theorem status?_modify {change : Account → Account} (hu : ∀ a, (change a).uid = a.uid)
    (hs : ∀ a, (change a).status = a.status) (s : Store) (uid uid' : Int) :
    (s.modify uid change).status? uid' = s.status? uid' := by
  have hrow : (s.modify uid change).status? uid' =
      ((s.row? uid').map fun a => if a.uid == uid then change a else a).map Account.status :=
    congrArg (Option.map Account.status) (row?_modify hu s uid uid')
  have hstatus : (Account.status ∘ fun a : Account => if a.uid == uid then change a else a) =
      Account.status := by
    funext a
    simp only [Function.comp]
    split
    · exact hs a
    · rfl
  rw [hrow, Option.map_map, hstatus]
  rfl

end Store

/-- The account with the uid is active, and if it was there before, it was active then. -/
structure StaysActive (uid : Int) (before after : Store) : Prop where
  after : after.status? uid = some .active
  before : ∀ status, before.status? uid = some status → status = .active

namespace StaysActive

variable {s s' : Store} {a : Account} {uid : Int}

/-- A stored account that is active. -/
theorem of_mem (h : s.WellFormed) (ha : a ∈ s.accounts) (hs : a.status = .active) :
    StaysActive a.uid s s := by
  have hactive := Store.status?_of_mem h ha
  rw [hs] at hactive
  refine ⟨hactive, fun status hstatus => ?_⟩
  rw [hactive] at hstatus
  exact (Option.some.inj hstatus).symm

/-- A change that keeps uids and statuses may follow. -/
theorem modify (h : StaysActive uid s s') (uid' : Int) (change : Account → Account)
    (hu : ∀ a, (change a).uid = a.uid) (hs : ∀ a, (change a).status = a.status) :
    StaysActive uid s (s'.modify uid' change) :=
  ⟨(Store.status?_modify hu hs s' uid' uid).trans h.after, h.before⟩

/-- The time of a login may be recorded. -/
theorem touch (h : StaysActive uid s s') (uid' : Int) (now : Instant) :
    StaysActive uid s (s'.touchLogin uid' now) :=
  h.modify uid' (fun a => { a with lastLogin := some now }) (fun _ => rfl) fun _ => rfl

end StaysActive

namespace Mapping

variable {t : Terms} {i : Identity} {s s' : Store}

/-- The account made for an identity is new, and it is active. -/
theorem withNewcomer_staysActive (h : s.WellFormed) (hn : s.nameTaken i.accountName = false)
    (hl : s.link? directoryModule i.authname = none) :
    StaysActive (newcomer t i s).uid s (withNewcomer t i s) := by
  have hwf : (withNewcomer t i s).WellFormed := h.addLinked rfl hn hl
  have hmem : newcomer t i s ∈ (withNewcomer t i s).accounts :=
    List.mem_append_right _ (List.mem_singleton_self _)
  have hnew : s.status? (newcomer t i s).uid = none := by
    refine Store.status?_eq_none fun a ha hu => ?_
    have hle := h.uid_le a ha
    have hnext : a.uid = s.lastUid + 1 := hu
    omega
  refine ⟨Store.status?_of_mem hwf hmem, fun status hstatus => ?_⟩
  rw [hnew] at hstatus
  cases hstatus

/-- A mapping that succeeds gives an account that is active, and was if it existed. -/
theorem Ending.status_of_ok {mapped : Mapped} (h : s.WellFormed) (hend : Ending t i s (.ok mapped) s') :
    StaysActive mapped.account.uid s s' := by
  cases hend with
  | linked a hl hs =>
    obtain ⟨m, -, -, ha, -⟩ := Store.accountByAuthname_eq_some hl
    exact (StaysActive.of_mem h ha hs).modify a.uid (update t _ a) (fun _ => rfl) fun _ => rfl
  | associated a hlink hl hs =>
    have hactive := StaysActive.of_mem h (Store.accountByName_eq_some hlink.named).1 hs
    -- A link leaves the accounts as they are.
    have hlinked : StaysActive a.uid s (withLink s i a) := ⟨hactive.after, hactive.before⟩
    exact hlinked.modify a.uid (update t _ a) (fun _ => rfl) fun _ => rfl
  | provisioned hc hn hl =>
    exact (withNewcomer_staysActive h hn hl).touch (newcomer t i s).uid t.now

end Mapping

/-- A login that succeeds gives an account that is active, and was if it existed. -/
theorem LoginRequest.attempt_status {r : Realm} {c : Authentication} {now : Instant} {s : Store}
    {q : LoginRequest} {o : Outcome} (h : s.WellFormed)
    (ho : (q.attempt r c now s).result = .ok o) :
    StaysActive o.account.uid s (q.attempt r c now s).store := by
  rcases attempt_ok ho with ⟨a, hlocal⟩ | ⟨i, grants, happ⟩
  · obtain ⟨name, secret, -, -, -, hname, -⟩ := hlocal.given
    rw [hlocal.outcome, hlocal.touched]
    have hactive := StaysActive.of_mem h (Store.accountByName_eq_some hname).1 hlocal.active
    exact hactive.touch a.uid now
  · exact happ.ending.status_of_ok h

end DirectoryLogin
