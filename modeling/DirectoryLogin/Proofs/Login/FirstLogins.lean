import DirectoryLogin.Proofs.Login.Interference
import DirectoryLogin.Proofs.Login.Refusal

/-!
# Racing first logins

A person who logs in for the first time, several times at once, gets one account. Each mapping looks
for a link and an account before it writes, and any of them may be overtaken; but a link is unique
in its authname, and an account is made together with its link.

* `Added`: what can have come to a store since, by mappings of one authname;
* `robust_added`: each write of such a mapping keeps it so;
* `Agree`, `first_logins_agree`: what therefore holds of any number of them in any order.
-/

namespace DirectoryLogin

open Settings (Authentication)
open Time (Instant)

namespace Mapping

open Store (Readable)

variable {s₀ s : Store} {authname : String} {t : Terms} {i : Identity}

/-! ## What comes to the store -/

/-- Since `s₀`, nothing has come to the store but a link of the authname, for an account that was
there or for one that came with it. -/
inductive Added (authname : String) (s₀ s : Store) : Prop
  | nothing (links : s.authmaps = s₀.authmaps)
      (uids : s.accounts.map (·.uid) = s₀.accounts.map (·.uid))
  | link (l : Authmap) (hl : s.link? directoryModule authname = some l)
      (links : s.authmaps = s₀.authmaps ++ [l])
      (uids : s.accounts.map (·.uid) = s₀.accounts.map (·.uid))
  | account (l : Authmap) (hl : s.link? directoryModule authname = some l)
      (links : s.authmaps = s₀.authmaps ++ [l])
      (uids : s.accounts.map (·.uid) = s₀.accounts.map (·.uid) ++ [l.uid])

namespace Added

theorem modify (h : Added authname s₀ s) {uid : Int} {change : Account → Account}
    (hu : ∀ a, (change a).uid = a.uid) : Added authname s₀ (s.modify uid change) := by
  have huids := Store.map_uid_modify s uid hu
  cases h with
  | nothing links uids => exact .nothing links (huids.trans uids)
  | link l hl links uids => exact .link l hl links (huids.trans uids)
  | account l hl links uids => exact .account l hl links (huids.trans uids)

/-- As long as the authname is free, nothing has come. -/
theorem eq_of_free (h : Added authname s₀ s) (hfree : s.link? directoryModule authname = none) :
    s.authmaps = s₀.authmaps ∧ s.accounts.map (·.uid) = s₀.accounts.map (·.uid) := by
  cases h with
  | nothing links uids => exact ⟨links, uids⟩
  | link l hl => rw [hfree] at hl; cases hl
  | account l hl => rw [hfree] at hl; cases hl

theorem linked (h : Added authname s₀ s) (hfree : s.link? directoryModule authname = none)
    (uid : Int) : Added authname s₀ (s.addAuthmap (s.nextAuthmap uid directoryModule authname)) := by
  obtain ⟨links, uids⟩ := h.eq_of_free hfree
  exact .link _ (Store.link?_addAuthmap hfree) (congrArg (· ++ _) links) uids

theorem provisioned (h : Added authname s₀ s) (hfree : s.link? directoryModule authname = none)
    (a : Account) : Added authname s₀ (s.addLinked a directoryModule authname) := by
  obtain ⟨links, uids⟩ := h.eq_of_free hfree
  refine .account _ (Store.link?_addAuthmap (s := s.addAccount a) hfree) (congrArg (· ++ _) links) ?_
  show (s.accounts ++ [a]).map (·.uid) = _
  rw [List.map_append, uids]
  rfl

end Added

/-- Accounts stay readable as long as the clock is. -/
theorem readable_modify (h : Readable s) (ht : Time.fourDigitYear t.now = true)
    {uid : Int} {change : Account → Account} (hlight : Light t change) :
    Readable (s.modify uid change) := by
  refine h.modify fun a ha => ?_
  rcases hlight.lastLogin a with he | he
  · exact Store.readAccount_of_times ha (hlight.createdAt a) he
  · exact Store.readAccount_touched ha (hlight.createdAt a) he ht

/-- Each write of a mapping of the authname keeps to what may come, and readable accounts
readable. -/
theorem robust_added (hi : i.authname = authname) (calm : Prop)
    (ht : calm → Time.fourDigitYear t.now = true) :
    Robust t i calm fun s => Added authname s₀ s ∧ (calm → Readable s) where
  updated hs _ _ hlight :=
    ⟨hs.1.modify hlight.uid, fun hcalm => readable_modify (hs.2 hcalm) (ht hcalm) hlight⟩
  linked hs _ hfree _ := by
    subst hi
    exact ⟨hs.1.linked hfree _, hs.2⟩
  provisioned hs _ hfree := by
    subst hi
    refine ⟨hs.1.provisioned hfree _, fun hcalm => ?_⟩
    refine Store.forall_mem_concat (hs.2 hcalm) ?_
    exact Store.readAccount_row _ _ _ (ht hcalm)
  readable hcalm _ hs := hs.2 hcalm
  clock := ht

/-! ## Races -/

variable {ι : Type} [DecidableEq ι] {terms : ι → Terms} {identities : ι → Identity}

/-- How mappings of one authname end that started together from a store: one link is added and one
account at most, all that succeed give the same account, and all others are refused. The database
fails them only where a stored time or a clock is outside of the years of four digits. -/
structure Agree (s : Store) (terms : ι → Terms) (r : Store.Race ι Failure Mapped) : Prop where
  links : ∃ ls, r.store.authmaps = s.authmaps ++ ls ∧ ls.length ≤ 1
  accounts : ∃ us, r.store.accounts.map (·.uid) = s.accounts.map (·.uid) ++ us ∧ us.length ≤ 1
  uids : ∀ j k m m', r.result? j = some (.ok m) → r.result? k = some (.ok m') →
    m.account.uid = m'.account.uid
  failures : ∀ k f, r.result? k = some (.error f) →
    f.kind = .provisioningError ∨ f.kind = .userDisallowed ∨
      f.kind = .databaseError ∧
        ¬ (Readable s ∧ ∀ k, Time.fourDigitYear (terms k).now = true)

/-- Mappings of one authname agree, whatever the store they start from and however they take turns,
and each of them ends within seven turns. -/
theorem first_logins_agree (s : Store) (terms : ι → Terms) (identities : ι → Identity)
    (authname : String) (h : ∀ k, (identities k).authname = authname) (schedule : List ι) :
    Agree s terms ((race s terms identities).run schedule) ∧
      ∀ k, 7 ≤ schedule.count k →
        (((race s terms identities).run schedule).result? k).isSome := by
  let calm : Prop := Readable s ∧ ∀ k, Time.fourDigitYear (terms k).now = true
  have hstart : Added authname s s ∧ (calm → Readable s) := ⟨.nothing rfl rfl, fun hcalm => hcalm.1⟩
  have hrobust : ∀ k, Robust (terms k) (identities k) calm fun s' =>
      Added authname s s' ∧ (calm → Readable s') :=
    fun k => robust_added (h k) calm fun hcalm => hcalm.2 k
  have hheld := race_upheld hrobust hstart schedule
  refine ⟨⟨?_, ?_, fun j k m m' hm hm' => ?_, fun k f hf => hheld.ends_of_done hf⟩,
    fun k => race_done s terms identities⟩
  · cases hheld.holds.1 with
    | nothing links => exact ⟨[], by simpa using links, Nat.zero_le 1⟩
    | link l _ links => exact ⟨[l], links, Nat.le_refl 1⟩
    | account l _ links => exact ⟨[l], links, Nat.le_refl 1⟩
  · cases hheld.holds.1 with
    | nothing _ uids => exact ⟨[], by simpa using uids, Nat.zero_le 1⟩
    | link _ _ _ uids => exact ⟨[], by simpa using uids, Nat.zero_le 1⟩
    | account l _ _ uids => exact ⟨[l.uid], uids, Nat.le_refl 1⟩
  · obtain ⟨l, hl, hu⟩ := hheld.ends_of_done hm
    obtain ⟨l', hl', hu'⟩ := hheld.ends_of_done hm'
    rw [h j] at hl
    rw [h k, hl] at hl'
    obtain rfl := Option.some.inj hl'
    exact hu.symm.trans hu'

end Mapping

/-! ## Races at the sample site -/

namespace Sample

/-- What the sample site says of its logins. -/
def terms : Mapping.Terms := ⟨settings, false, [], now⟩

/-- The person logs in twice at once. -/
def twice (s : Store) : Store.Race Bool Failure Mapped :=
  Mapping.race s (fun _ => terms) fun _ => identity

/-- Turns in which each mapping has looked before the other one writes. -/
def crossing : List Bool := [true, false, true, false, true, false, true, false]

/-- An account of the person's name was last used in the year 10000. -/
def timelessStore : Store :=
  (Store.empty.createAccount ⟨"hpotter", none, none, false, []⟩ now).2.touchLogin 2
    ⟨253402300800, 0⟩

end Sample

/-- One of the two logins makes the account, and the other one is refused. -/
theorem sample_first_logins :
    Mapping.Agree .empty (fun _ => Sample.terms)
        ((Mapping.race .empty (fun _ => Sample.terms) fun _ => Sample.identity).run
          Sample.crossing) ∧
      (((Sample.twice .empty).run Sample.crossing).store.accounts.map (·.uid)) = [2] ∧
      ((Sample.twice .empty).run Sample.crossing).result? false =
        some (.error (.store (.nameTaken "hpotter"))) :=
  ⟨(Mapping.first_logins_agree .empty _ _ "hpotter" (fun _ => by decide +kernel)
    Sample.crossing).1, by decide +kernel, by decide +kernel⟩

/-- A login is neither let in nor refused where the account of its name cannot be read. -/
theorem sample_unreadable_login :
    ¬ ∀ (schedule : List Bool) k f,
      ((Sample.twice Sample.timelessStore).run schedule).result? k = some (.error f) →
        f.kind = .provisioningError ∨ f.kind = .userDisallowed := by
  intro hall
  have hresult : ((Sample.twice Sample.timelessStore).run [true, true]).result? true =
      some (.error (.store (.unreadableTimestamp ⟨253402300800, 0⟩))) := by
    decide +kernel
  exact absurd (hall _ _ _ hresult) (by decide)

end DirectoryLogin
