import DirectoryLogin.Failure.Basic
import DirectoryLogin.Proofs.Account.WellFormed
import DirectoryLogin.Proofs.Text.LowerCase

/-!
# Histories of the store

A history is a list of calls on a store that starts empty. Any of the calls may fail, and the store
may be closed and opened again in between.

* `Effect` and `perform_effect`: all that a call can do to the accounts;
* `Makes`: a call makes an account under a uid that was not in use;
* `Numbered`: the uids given out are 2, 3, 4 and so on, none left out;
* `perform_refused`: an insertion that is refused changes nothing;
* `Consistent` and `history_consistent`: what therefore holds after every history, and of the call
  that comes next.
-/

namespace DirectoryLogin.Store

open Time (Instant)

variable {s : Store} {c : Call} {cs : List Call} {a b : Account} {u : Int}

/-- The store after calls one after another, whatever they answer. -/
def after (s : Store) (cs : List Call) : Store := cs.foldl (fun s c => (s.perform c).2) s

@[simp]
theorem after_concat (s : Store) (cs : List Call) (c : Call) :
    s.after (cs ++ [c]) = ((s.after cs).perform c).2 := by
  simp [after]

theorem after_wellFormed (cs : List Call) : (empty.after cs).WellFormed := by
  induction cs using List.reverseRecOn with
  | nil => exact .empty
  | append_singleton cs c ih =>
    rw [after_concat]
    exact perform_wellFormed ih c

/-! ## Names -/

/-- Names that differ in the case of the letters A to Z only are the same name. -/
theorem sameName_of_sameAscii {x y : String} (h : Text.sameAscii x y = true) :
    sameName x y = true := by
  have hnul : (· != '\x00') ∘ Char.toLower = (· != '\x00') :=
    funext (Text.toLower_related (R := fun d c => (d != '\x00') = (c != '\x00')) (fun _ => rfl)
      (by decide))
  have hpart : ∀ z, Text.lowerAscii (comparedPart z) = comparedPart (Text.lowerAscii z) := by
    intro z
    simp only [Text.lowerAscii, comparedPart, String.toList_ofList, List.takeWhile_map, hnul]
  have hxy : Text.lowerAscii x = Text.lowerAscii y := by simpa [Text.sameAscii] using h
  have hsize : x.utf8ByteSize = y.utf8ByteSize := by
    rw [← Text.utf8ByteSize_lowerAscii x, hxy, Text.utf8ByteSize_lowerAscii]
  simp [sameName, Text.sameAscii, hsize, hpart, hxy]

/-! ## What a call does to the accounts -/

/-- The call inserts an account, not the site owner's. -/
def Call.inserts : Call → Bool
  | createAccount .. | provisionAccount .. => true
  | _ => false

/-- What a call can do to the accounts of a store. -/
inductive Effect (s : Store) (c : Call) : Prop where
  /-- It leaves the uids as they are. -/
  | kept (uids : (s.perform c).2.accounts.map (·.uid) = s.accounts.map (·.uid))
      (last : (s.perform c).2.lastUid = s.lastUid)
  /-- It adds an account under the next uid. -/
  | added (a : Account) (inserts : c.inserts = true) (uid : a.uid = s.lastUid + 1)
      (accounts : (s.perform c).2.accounts = s.accounts ++ [a])
      (last : (s.perform c).2.lastUid = a.uid)
  /-- It makes the site owner's account, and answers with it if the clock can be read back. -/
  | owned (n : NewAccount) (now : Instant) (asked : c = .ensureSiteOwner n now)
      (ownerless : ∀ a ∈ s.accounts, a.uid ≠ siteOwnerUid)
      (made : s.ensureSiteOwner n now = (readAccount (NewAccount.row n siteOwnerUid false now),
        s.addOwner (NewAccount.row n siteOwnerUid false now)))

theorem map_uid_modify (s : Store) (uid : Int) {change : Account → Account}
    (h : ∀ a, (change a).uid = a.uid) :
    (s.modify uid change).accounts.map (·.uid) = s.accounts.map (·.uid) := by
  simp only [modify, List.map_map, List.map_inj_left, Function.comp]
  intro a _
  split
  · exact h a
  · rfl

theorem perform_effect (s : Store) (c : Call) : Effect s c := by
  cases c with
  | createAccount n now =>
    rcases createAccount_cases s n now with h | ⟨-, h⟩
    · exact .kept (by rw [perform, h]) (by rw [perform, h])
    · exact .added _ rfl rfl (by rw [perform, h]; rfl) (by rw [perform, h]; rfl)
  | provisionAccount n module authname now =>
    rcases provisionAccount_cases s n module authname now with ⟨e, h⟩ | ⟨-, -, h⟩
    · exact .kept (by rw [perform, h]) (by rw [perform, h])
    · exact .added _ rfl rfl (by rw [perform, h]; rfl) (by rw [perform, h]; rfl)
  | ensureSiteOwner n now =>
    rcases ensureSiteOwner_cases s n now with h | ⟨hnew, -, h⟩
    · exact .kept (by rw [perform, h]) (by rw [perform, h])
    · exact .owned n now rfl hnew h
  | createAuthmap uid module authname =>
    rcases createAuthmap_cases s uid module authname with ⟨e, h⟩ | ⟨-, -, h⟩
    · exact .kept (by rw [perform, h]) (by rw [perform, h])
    · exact .kept (by rw [perform, h]; rfl) (by rw [perform, h]; rfl)
  | updateMail uid | updateRoles uid | setStatus uid | setLdapExcluded uid | touchLogin uid =>
    exact .kept (map_uid_modify s uid fun _ => rfl) rfl
  | account | accountByName | listAccounts | accountByAuthname | authmap | saveSettings
  | savedSettings | healthCheck | reopen => exact .kept rfl rfl

/-! ## Accounts that are made -/

/-- The call makes the account: it is there afterwards, under a uid that was not in use. -/
def Makes (s : Store) (c : Call) (a : Account) : Prop :=
  a ∈ (s.perform c).2.accounts ∧ ∀ b ∈ s.accounts, b.uid ≠ a.uid

/-- Some call of the history made an account under the uid. -/
def HandedOut (cs : List Call) (u : Int) : Prop :=
  ∃ earlier c later a, cs = earlier ++ c :: later ∧ Makes (empty.after earlier) c a ∧ a.uid = u

theorem not_makes_of_kept (h : (s.perform c).2.accounts.map (·.uid) = s.accounts.map (·.uid)) :
    ¬ Makes s c a := by
  rintro ⟨ha, hnew⟩
  have hu : a.uid ∈ s.accounts.map (·.uid) := h ▸ List.mem_map_of_mem ha
  obtain ⟨b, hb, hbu⟩ := List.mem_map.mp hu
  exact hnew b hb hbu

/-- An account that an insertion makes has the next uid. -/
theorem Makes.uid_eq (h : Makes s c a) (hc : c.inserts = true) : a.uid = s.lastUid + 1 := by
  cases perform_effect s c with
  | kept huids => exact absurd h (not_makes_of_kept huids)
  | added b _ hu haccounts =>
    have ha := h.1
    rw [haccounts, List.mem_append, List.mem_singleton] at ha
    rcases ha with ha | rfl
    · exact absurd rfl (h.2 a ha)
    · exact hu
  | owned n now hasked =>
    rw [hasked] at hc
    cases hc

theorem makes_of_added (h : s.WellFormed) (ha : a.uid = s.lastUid + 1)
    (hmem : a ∈ (s.perform c).2.accounts) : Makes s c a := by
  refine ⟨hmem, fun b hb hu => ?_⟩
  have := h.uid_le b hb
  omega

/-- The account that an insertion answers with is the one that it makes. -/
theorem createAccount_makes (h : s.WellFormed) {n : NewAccount} {now : Instant}
    (ha : (s.createAccount n now).1 = .ok a) : Makes s (.createAccount n now) a := by
  simp only [createAccount] at ha
  split at ha
  · cases ha
  · rename_i b s' hi
    obtain ⟨-, rfl, rfl⟩ := insertAccount_eq_ok.mp hi
    obtain rfl := readAccount_eq_ok ha
    refine makes_of_added h rfl ?_
    simp only [perform, createAccount, hi]
    exact List.mem_append_right _ (List.mem_singleton_self _)

theorem provisionAccount_makes (h : s.WellFormed) {n : NewAccount} {module authname : String}
    {now : Instant} (ha : (s.provisionAccount n module authname now).1 = .ok a) :
    Makes s (.provisionAccount n module authname now) a := by
  rcases provisionAccount_cases s n module authname now with ⟨e, hs⟩ | ⟨-, -, hs⟩
  · rw [hs] at ha
    cases ha
  · rw [hs] at ha
    obtain rfl := readAccount_eq_ok ha
    refine makes_of_added h rfl ?_
    simp only [perform, hs]
    exact List.mem_append_right _ (List.mem_singleton_self _)

/-- Uids stay in use. -/
theorem uid_mem_perform (h : u ∈ s.accounts.map (·.uid)) :
    u ∈ (s.perform c).2.accounts.map (·.uid) := by
  cases perform_effect s c with
  | kept huids => rwa [huids]
  | added a _ _ haccounts =>
    rw [haccounts, List.map_append]
    exact List.mem_append_left _ h
  | owned n now hasked hnew hmade =>
    rw [hasked, perform, hmade]
    exact List.mem_cons_of_mem _ h

theorem uid_mem_after (h : u ∈ s.accounts.map (·.uid)) (cs : List Call) :
    u ∈ (s.after cs).accounts.map (·.uid) := by
  induction cs generalizing s with
  | nil => exact h
  | cons c cs ih => exact ih (uid_mem_perform h)

/-- A uid handed out is in use, and so below the next one. -/
theorem HandedOut.le_lastUid (h : HandedOut cs u) : u ≤ (empty.after cs).lastUid := by
  obtain ⟨earlier, c, later, a, rfl, ha, rfl⟩ := h
  have hmem : a.uid ∈ ((empty.after earlier).perform c).2.accounts.map (·.uid) :=
    List.mem_map_of_mem ha.1
  have hlater := uid_mem_after hmem later
  have hsplit : empty.after (earlier ++ c :: later) =
      ((empty.after earlier).perform c).2.after later := by
    simp [after]
  rw [← hsplit] at hlater
  obtain ⟨b, hb, hbu⟩ := List.mem_map.mp hlater
  rw [← hbu]
  exact (after_wellFormed _).uid_le b hb

/-! ## Counting -/

/-- The accounts other than the site owner's. -/
def others (s : Store) : List Account := s.accounts.filter fun a => a.uid != siteOwnerUid

/-- The uids from 2 on have been given out without a gap. -/
def Numbered (s : Store) : Prop := s.lastUid = siteOwnerUid + s.others.length

theorem length_others (s : Store) :
    s.others.length = ((s.accounts.map (·.uid)).filter (· != siteOwnerUid)).length := by
  simp [others, List.filter_map, Function.comp_def]

theorem Numbered.perform (h : Numbered s) (hw : s.WellFormed) (c : Call) :
    Numbered (s.perform c).2 := by
  unfold Numbered at h ⊢
  rw [length_others] at h ⊢
  cases perform_effect s c with
  | kept huids hlast => rw [huids, hlast, h]
  | added a _ hu haccounts hlast =>
    have hne : (a.uid != siteOwnerUid) = true := by
      have := hw.lastUid_ge
      simp only [bne_iff_ne]
      omega
    rw [haccounts, hlast, hu, h]
    simp [List.filter_append, hne]
    omega
  | owned n now hasked _ hmade =>
    rw [hasked, Store.perform, hmade]
    simpa [addOwner, NewAccount.row] using h

theorem after_numbered (cs : List Call) : Numbered (empty.after cs) := by
  induction cs using List.reverseRecOn with
  | nil => rfl
  | append_singleton cs c ih =>
    rw [after_concat]
    exact ih.perform (after_wellFormed cs) c

/-! ## The site owner's account -/

/-- The site owner's account is made by a call of the history that asks for it. -/
theorem exists_ensureSiteOwner (ha : a ∈ (empty.after cs).accounts) (hu : a.uid = siteOwnerUid) :
    ∃ earlier n now later, cs = earlier ++ .ensureSiteOwner n now :: later ∧
      (Time.fourDigitYear now = true →
        ∃ owner, ((empty.after earlier).ensureSiteOwner n now).1 = .ok owner) := by
  induction cs using List.reverseRecOn generalizing a with
  | nil => cases ha
  | append_singleton cs c ih =>
    have hearlier : siteOwnerUid ∈ (empty.after cs).accounts.map (·.uid) →
        ∃ earlier n now later, cs ++ [c] = earlier ++ .ensureSiteOwner n now :: later ∧
          (Time.fourDigitYear now = true →
            ∃ owner, ((empty.after earlier).ensureSiteOwner n now).1 = .ok owner) := by
      intro hmem
      obtain ⟨b, hb, hbu⟩ := List.mem_map.mp hmem
      obtain ⟨earlier, n, now, later, rfl, hok⟩ := ih hb hbu
      exact ⟨earlier, n, now, later ++ [c], by simp, hok⟩
    rw [after_concat] at ha
    have hmem : siteOwnerUid ∈ ((empty.after cs).perform c).2.accounts.map (·.uid) :=
      hu ▸ List.mem_map_of_mem ha
    cases perform_effect (empty.after cs) c with
    | kept huids =>
      rw [huids] at hmem
      exact hearlier hmem
    | added b _ hbu haccounts =>
      rw [haccounts, List.map_append, List.mem_append] at hmem
      rcases hmem with hmem | hmem
      · exact hearlier hmem
      · have hlast := (after_wellFormed cs).lastUid_ge
        have hb : siteOwnerUid = b.uid := by simpa using hmem
        omega
    | owned n now hasked _ hmade =>
      refine ⟨cs, n, now, [], by rw [hasked], fun hclock => ?_⟩
      rw [hmade]
      exact ⟨_, readAccount_row n false now hclock⟩

/-! ## Refusals -/

theorem readAccount_kind {e : StoreError} (h : readAccount a = .error e) :
    e.kind = .databaseError ∧ ∀ uid, e ≠ .unknownAccount uid := by
  obtain ⟨t, rfl⟩ := readAccount_eq_error h
  exact ⟨rfl, fun _ he => (nomatch he)⟩

/-- A call that is refused for what the store holds changes nothing. -/
theorem perform_refused {e : StoreError} (h : (s.perform c).1 = .error e)
    (he : e.kind = .provisioningError ∨ ∃ uid, e = .unknownAccount uid) : (s.perform c).2 = s := by
  have hread : ∀ a, readAccount a ≠ .error e := by
    intro a ha
    obtain ⟨hkind, huid⟩ := readAccount_kind ha
    rcases he with he | ⟨uid, rfl⟩
    · rw [hkind] at he
      cases he
    · exact huid uid rfl
  cases c with
  | createAccount n now =>
    simp only [perform, createAccount] at h ⊢
    split
    · rfl
    · rename_i hi
      rw [hi] at h
      exact absurd h (hread _)
  | ensureSiteOwner n now =>
    rcases ensureSiteOwner_cases s n now with hs | ⟨-, -, hs⟩
    · exact hs
    · simp only [perform, hs] at h
      exact absurd h (hread _)
  | provisionAccount n module authname now =>
    rcases provisionAccount_cases s n module authname now with ⟨e', hs⟩ | ⟨-, -, hs⟩
    · simp only [perform, hs]
    · simp only [perform, hs] at h
      exact absurd h (hread _)
  | createAuthmap uid module authname =>
    rcases createAuthmap_cases s uid module authname with ⟨e', hs⟩ | ⟨-, -, hs⟩
    · simp only [perform, hs]
    · simp only [perform, hs] at h
      cases h
  | updateMail | updateRoles | setStatus | setLdapExcluded | touchLogin | saveSettings => cases h
  | account | accountByName | listAccounts | accountByAuthname | authmap | savedSettings
  | healthCheck | reopen => rfl

/-! ## The whole -/

/-- What holds of the store after a history, and of any call that comes next. -/
structure Consistent (cs : List Call) : Prop where
  /-- Account names differ in more than the case of the letters A to Z. -/
  names : (empty.after cs).accounts.Pairwise fun a b => Text.sameAscii a.name b.name = false
  uids : (empty.after cs).accounts.Pairwise fun a b => a.uid ≠ b.uid
  /-- The site owner's account is there only if it was asked for with success. (Where the clock
  stands at a year that has not four digits, the account that is made cannot be read back.) -/
  owner : ∀ a ∈ (empty.after cs).accounts, a.uid = siteOwnerUid →
    ∃ earlier n now later, cs = earlier ++ .ensureSiteOwner n now :: later ∧
      (Time.fourDigitYear now = true →
        ∃ owner, ((empty.after earlier).ensureSiteOwner n now).1 = .ok owner)
  /-- Every account that an insertion makes has a uid above all that were handed out before. The
  uids count the accounts, so an insertion that fails uses none. -/
  fresh : ∀ c a, c.inserts = true → Makes (empty.after cs) c a →
    2 ≤ a.uid ∧ (∀ u, HandedOut cs u → u < a.uid) ∧ a.uid = 2 + (empty.after cs).others.length
  /-- The account that an insertion answers with is the one that it makes. -/
  answered : ∀ n now a,
    (((empty.after cs).createAccount n now).1 = .ok a →
      Makes (empty.after cs) (.createAccount n now) a) ∧
    ∀ module authname, ((empty.after cs).provisionAccount n module authname now).1 = .ok a →
      Makes (empty.after cs) (.provisionAccount n module authname now) a
  keys : (empty.after cs).authmaps.Pairwise fun m m' =>
    (m.module, m.authname) ≠ (m'.module, m'.authname)
  linked : ∀ m ∈ (empty.after cs).authmaps, ∃ a ∈ (empty.after cs).accounts, a.uid = m.uid
  /-- A call that finds a name or an authname taken, or an account missing, changes nothing. -/
  refused : ∀ c e, ((empty.after cs).perform c).1 = .error e →
    e.kind = .provisioningError ∨ (∃ uid, e = .unknownAccount uid) →
      ((empty.after cs).perform c).2 = empty.after cs

/-- Every history of calls leaves a consistent store. -/
theorem history_consistent (cs : List Call) : Consistent cs where
  names := by
    refine (after_wellFormed cs).names.imp fun hne => ?_
    by_contra hsame
    rw [sameName_of_sameAscii (by simpa using hsame)] at hne
    cases hne
  uids := (after_wellFormed cs).uids.imp fun hlt => Int.ne_of_lt hlt
  owner a ha hu := exists_ensureSiteOwner ha hu
  fresh := by
    intro c a hc ha
    have hu := ha.uid_eq hc
    have hnumbered : (empty.after cs).lastUid = 1 + (empty.after cs).others.length :=
      after_numbered cs
    refine ⟨by omega, fun u h => ?_, by omega⟩
    have := h.le_lastUid
    omega
  answered n now a :=
    ⟨createAccount_makes (after_wellFormed cs),
      fun _ _ => provisionAccount_makes (after_wellFormed cs)⟩
  keys := by
    refine (after_wellFormed cs).keys.imp fun hkey he => ?_
    exact hkey (Prod.mk.inj he).1 (Prod.mk.inj he).2
  linked := (after_wellFormed cs).linked
  refused c e h he := perform_refused h he

/-! ## A sample history -/

/-- A request for an account that has a name only. -/
def named (name : String) : NewAccount := ⟨name, none, none, false, []⟩

/-- An account is made and its name refused to a second one. An account that cannot be linked is
taken back, and so is a link to no account. -/
def sampleCalls : List Call :=
  [.createAccount (named "hpotter") ⟨0, 0⟩,
    .createAccount (named "HPotter") ⟨0, 0⟩,
    .ensureSiteOwner (named "admin") ⟨0, 0⟩,
    .createAuthmap 2 directoryModule "hpotter",
    .provisionAccount (named "harry") directoryModule "hpotter" ⟨0, 0⟩,
    .createAuthmap 3 directoryModule "harry",
    .reopen]

/-- The next account has the uid 3, above the two uids that are handed out. -/
theorem sample_next_uid : ∃ a,
    Makes (empty.after sampleCalls) (.createAccount (named "harry") ⟨0, 0⟩) a ∧ a.uid = 3 ∧
      HandedOut sampleCalls 2 ∧ HandedOut sampleCalls 1 ∧
      ∀ u, HandedOut sampleCalls u → u < 3 := by
  let a := NewAccount.row (named "harry") 3 false ⟨0, 0⟩
  have hmade : Makes (empty.after sampleCalls) (.createAccount (named "harry") ⟨0, 0⟩) a := by
    unfold Makes
    decide +kernel
  obtain ⟨-, hlt, -⟩ := (history_consistent sampleCalls).fresh _ a rfl hmade
  have hfirst : HandedOut sampleCalls 2 :=
    ⟨[], _, _, _, rfl, createAccount_makes .empty rfl, rfl⟩
  have howner : HandedOut sampleCalls 1 := by
    refine ⟨sampleCalls.take 2, .ensureSiteOwner (named "admin") ⟨0, 0⟩, sampleCalls.drop 3,
      NewAccount.row (named "admin") 1 false ⟨0, 0⟩, rfl, ?_, rfl⟩
    unfold Makes
    decide +kernel
  exact ⟨a, hmade, rfl, hfirst, howner, hlt⟩

end DirectoryLogin.Store
