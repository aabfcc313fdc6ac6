import DirectoryLogin.Account.Script
import DirectoryLogin.Proofs.Text.Trimming

/-!
# Reading and writing the account store

* `accountByName_eq_some`, `accountByAuthname_eq_some`: an account that is read is stored;
* `createAccount_cases`, `createAuthmap_cases`, `provisionAccount_cases`, `ensureSiteOwner_cases`:
  an insertion leaves the store as it was, or it adds what it is asked for under the next id, and
  then the name or the authname was free;
* `modify_modify`: two changes to one account are one change;
* `Readable`: a store in which no timestamp keeps an account from being read.
-/

namespace DirectoryLogin.Store

open Time (Instant)

variable {s s' : Store} {a b : Account} {m : Authmap} {uid : Int} {name module authname : String}

/-! ## Reading -/

/-- The first timestamp of an account that cannot be read back. -/
def unreadable? (a : Account) : Option Instant :=
  (a.createdAt :: a.lastLogin.toList).find? fun t => !Time.fourDigitYear t

/-- Only its timestamps can keep a stored account from being read. -/
theorem readAccount_eq (a : Account) : readAccount a =
    match unreadable? a with
    | some t => .error (.unreadableTimestamp t)
    | none => .ok a := by
  unfold readAccount checkTimestamp unreadable?
  cases hc : Time.fourDigitYear a.createdAt with
  | false =>
    simp only [List.find?_cons, hc, Bool.not_false, Bool.false_eq_true, ↓reduceIte]
    rfl
  | true =>
    cases hl : a.lastLogin with
    | none =>
      simp only [List.find?_cons, hc, Bool.not_true, Option.toList_none, List.find?_nil, ↓reduceIte]
      rfl
    | some t =>
      cases ht : Time.fourDigitYear t with
      | false =>
        simp only [List.find?_cons, hc, ht, Bool.not_true, Bool.not_false, Option.toList_some,
          Bool.false_eq_true, ↓reduceIte]
        rfl
      | true =>
        simp only [List.find?_cons, hc, ht, Bool.not_true, Option.toList_some, List.find?_nil,
          ↓reduceIte]
        rfl

theorem readAccount_eq_ok (h : readAccount a = .ok b) : b = a := by
  rw [readAccount_eq] at h
  split at h
  · cases h
  · exact (Except.ok.inj h).symm

theorem readAccount_eq_error {e : StoreError} (h : readAccount a = .error e) :
    ∃ t, e = .unreadableTimestamp t := by
  rw [readAccount_eq] at h
  split at h
  · rename_i t _
    exact ⟨t, (Except.error.inj h).symm⟩
  · cases h

theorem readAccount_eq_ok_iff {a : Account} : readAccount a = .ok a ↔
    Time.fourDigitYear a.createdAt = true ∧
      ∀ at_, a.lastLogin = some at_ → Time.fourDigitYear at_ = true := by
  rw [readAccount_eq]
  cases hu : unreadable? a with
  | some t =>
    have ht := List.find?_some hu
    have hmem := List.mem_of_find?_eq_some hu
    simp only [Bool.not_eq_true'] at ht
    simp only [reduceCtorEq, false_iff, not_and, List.mem_cons, Option.mem_toList] at hmem ⊢
    rcases hmem with rfl | hlast
    · simp [ht]
    · exact fun _ hall => absurd (hall t hlast) (by simp [ht])
  | none =>
    rw [unreadable?, List.find?_eq_none] at hu
    simp only [true_iff]
    exact ⟨by simpa using hu a.createdAt (List.mem_cons_self ..),
      fun at_ hat => by simpa using hu at_ (List.mem_cons_of_mem _ (by simp [hat]))⟩

/-- A new account can be read back if the clock can. -/
theorem readAccount_row (n : NewAccount) (excluded : Bool) (now : Instant)
    (h : Time.fourDigitYear now = true) :
    readAccount (NewAccount.row n uid excluded now) = .ok (NewAccount.row n uid excluded now) := by
  have hnone : unreadable? (NewAccount.row n uid excluded now) = none := by
    simp [unreadable?, NewAccount.row, h]
  rw [readAccount_eq, hnone]

/-- An account with the timestamps of one that can be read can be read as well. -/
theorem readAccount_of_times (h : readAccount a = .ok a) (hcreated : b.createdAt = a.createdAt)
    (hlast : b.lastLogin = a.lastLogin) : readAccount b = .ok b := by
  rw [readAccount_eq_ok_iff] at h ⊢
  rwa [hcreated, hlast]

/-- A stored account as a time later than its creation finds it. -/
theorem readAccount_touched {now : Instant} (h : readAccount a = .ok a)
    (hcreated : b.createdAt = a.createdAt) (hlast : b.lastLogin = some now)
    (hnow : Time.fourDigitYear now = true) : readAccount b = .ok b := by
  rw [readAccount_eq_ok_iff] at h ⊢
  rw [hcreated, hlast]
  exact ⟨h.1, fun at_ hat => Option.some.inj hat ▸ hnow⟩

theorem readOptional_eq_none {o : Option Account} (h : readOptional o = .ok none) : o = none := by
  cases o with
  | none => rfl
  | some a =>
    simp only [readOptional] at h
    cases hr : readAccount a with
    | error e => rw [hr] at h; cases h
    | ok b => rw [hr] at h; cases h

theorem readOptional_eq_some_iff {o : Option Account} :
    readOptional o = .ok (some a) ↔ o = some a ∧ readAccount a = .ok a := by
  constructor
  · intro h
    cases o with
    | none => cases h
    | some b =>
      simp only [readOptional] at h
      cases hr : readAccount b with
      | error e => rw [hr] at h; cases h
      | ok c =>
        rw [hr] at h
        cases h
        obtain rfl := readAccount_eq_ok hr
        exact ⟨rfl, hr⟩
  · rintro ⟨rfl, hr⟩
    simp only [readOptional, hr]
    rfl

theorem readOptional_eq_some {o : Option Account} (h : readOptional o = .ok (some a)) :
    o = some a :=
  (readOptional_eq_some_iff.mp h).1

/-- The stored account with a uid, whether it can be read or not. -/
def row? (s : Store) (uid : Int) : Option Account := s.accounts.find? (·.uid == uid)

theorem account_eq (s : Store) (uid : Int) : s.account uid = readOptional (s.row? uid) := rfl

theorem row?_eq_none_iff : s.row? uid = none ↔ ∀ a ∈ s.accounts, a.uid ≠ uid := by
  simp [row?]

theorem account_eq_none (h : s.account uid = .ok none) : ∀ a ∈ s.accounts, a.uid ≠ uid := by
  have hf := readOptional_eq_none h
  rw [List.find?_eq_none] at hf
  intro a ha he
  exact hf a ha (by simp [he])

theorem account_eq_some (h : s.account uid = .ok (some a)) : a ∈ s.accounts ∧ a.uid = uid := by
  have hf := readOptional_eq_some h
  exact ⟨List.mem_of_find?_eq_some hf, by simpa using List.find?_some hf⟩

@[simp]
theorem sameName_self (name : String) : sameName name name = true := by
  simp [sameName, Text.sameAscii]

theorem accountByName_eq_some (h : s.accountByName name = .ok (some a)) :
    a ∈ s.accounts ∧ sameName a.name (Text.trim name) = true := by
  have hf := readOptional_eq_some h
  have hname := List.find?_some (p := fun b : Account => sameName b.name (Text.trim name)) hf
  exact ⟨List.mem_of_find?_eq_some hf, hname⟩

@[simp]
theorem accountByName_trim (s : Store) (name : String) :
    s.accountByName (Text.trim name) = s.accountByName name := by
  simp only [accountByName, Text.trim_trim]

/-- A new status does not keep an account from being found by its name. -/
theorem accountByName_setStatus (h : s.accountByName name = .ok (some a))
    (status : Account.Status) :
    (s.setStatus a.uid status).accountByName name = .ok (some { a with status }) := by
  obtain ⟨hfind, hread⟩ := readOptional_eq_some_iff.mp h
  refine readOptional_eq_some_iff.mpr ⟨?_, readAccount_of_times hread rfl rfl⟩
  have hname : ((sameName ·.name (Text.trim name)) ∘ fun b : Account =>
      if b.uid == a.uid then { b with status } else b) = (sameName ·.name (Text.trim name)) := by
    funext b
    simp only [Function.comp]
    split
    · rfl
    · rfl
  show (s.accounts.map _).find? _ = _
  rw [List.find?_map, hname, hfind]
  simp

/-- The link of an outside identity. -/
def link? (s : Store) (module authname : String) : Option Authmap :=
  s.authmaps.find? fun m => m.module == module && m.authname == authname

theorem link?_eq_some (h : s.link? module authname = some m) :
    m ∈ s.authmaps ∧ m.module = module ∧ m.authname = authname := by
  have hp := List.find?_some h
  simp only [Bool.and_eq_true, beq_iff_eq] at hp
  exact ⟨List.mem_of_find?_eq_some h, hp.1, hp.2⟩

theorem link?_eq_none_iff :
    s.link? module authname = none ↔
      ∀ m ∈ s.authmaps, m.module = module → m.authname ≠ authname := by
  simp [link?]

theorem authmap_eq_none (h : s.authmap uid module = none) :
    ∀ m ∈ s.authmaps, m.uid = uid → m.module ≠ module := by
  simpa [authmap] using h

theorem accountByAuthname_eq_some (h : s.accountByAuthname module authname = .ok (some a)) :
    ∃ m, s.link? module authname = some m ∧ s.account m.uid = .ok (some a) ∧ a ∈ s.accounts ∧
      a.uid = m.uid := by
  unfold accountByAuthname at h
  split at h
  · rename_i m hm
    exact ⟨m, hm, h, account_eq_some h⟩
  · cases h

theorem readOptional_eq_error {o : Option Account} {e : StoreError} (h : readOptional o = .error e) :
    ∃ a, o = some a ∧ readAccount a = .error e := by
  cases o with
  | none => cases h
  | some a =>
    refine ⟨a, rfl, ?_⟩
    cases hr : readAccount a with
    | error e' =>
      simp only [readOptional, hr] at h
      exact congrArg _ (Except.error.inj h)
    | ok b =>
      simp only [readOptional, hr] at h
      cases h

theorem accountByName_eq_error {e : StoreError} (h : s.accountByName name = .error e) :
    ∃ a ∈ s.accounts, readAccount a = .error e := by
  obtain ⟨a, hf, hr⟩ := readOptional_eq_error h
  exact ⟨a, List.mem_of_find?_eq_some hf, hr⟩

theorem accountByAuthname_eq_error {e : StoreError}
    (h : s.accountByAuthname module authname = .error e) :
    ∃ a ∈ s.accounts, readAccount a = .error e := by
  unfold accountByAuthname at h
  split at h
  · obtain ⟨a, hf, hr⟩ := readOptional_eq_error h
    exact ⟨a, List.mem_of_find?_eq_some hf, hr⟩
  · cases h

/-- The account of an outside identity is that of its link. -/
theorem accountByAuthname_of_link? (h : s.link? module authname = some m) :
    s.accountByAuthname module authname = s.account m.uid := by
  unfold link? at h
  simp only [accountByAuthname, h]

theorem accountByAuthname_of_link?_none (h : s.link? module authname = none) :
    s.accountByAuthname module authname = .ok none := by
  unfold link? at h
  simp only [accountByAuthname, h]

/-! ## Adding -/

/-- The store with an account at the end. -/
def addAccount (s : Store) (a : Account) : Store :=
  { s with accounts := s.accounts ++ [a], lastUid := a.uid }

/-- The store with the site owner's account at the beginning. -/
def addOwner (s : Store) (a : Account) : Store := { s with accounts := a :: s.accounts }

/-- The store with a link at the end. -/
def addAuthmap (s : Store) (m : Authmap) : Store :=
  { s with authmaps := s.authmaps ++ [m], lastAid := m.aid }

/-- The link that the store would add next. -/
def nextAuthmap (s : Store) (uid : Int) (module authname : String) : Authmap :=
  ⟨s.lastAid + 1, uid, module, authname⟩

/-- The account that the store would add next. -/
def nextAccount (s : Store) (n : NewAccount) (excluded : Bool) (now : Instant) : Account :=
  NewAccount.row n (s.lastUid + 1) excluded now

theorem insertAccount_eq_ok {n : NewAccount} {excluded : Bool} {now : Instant} :
    s.insertAccount n excluded now = .ok (a, s') ↔
      s.nameTaken n.name = false ∧ a = s.nextAccount n excluded now ∧ s' = s.addAccount a := by
  cases hn : s.nameTaken n.name with
  | true => simp [insertAccount, hn]
  | false =>
    simp only [insertAccount, hn, Bool.false_eq_true, ↓reduceIte, Except.ok.injEq, Prod.mk.injEq,
      true_and]
    constructor
    · rintro ⟨rfl, rfl⟩
      exact ⟨rfl, rfl⟩
    · rintro ⟨rfl, rfl⟩
      exact ⟨rfl, rfl⟩

theorem insertAccount_of_taken {n : NewAccount} (h : s.nameTaken n.name = true) (excluded : Bool)
    (now : Instant) : s.insertAccount n excluded now = .error (.nameTaken n.name) := by
  rw [insertAccount, if_pos h]

theorem insertAccount_of_free {n : NewAccount} (h : s.nameTaken n.name = false) (excluded : Bool)
    (now : Instant) :
    s.insertAccount n excluded now =
      .ok (s.nextAccount n excluded now, s.addAccount (s.nextAccount n excluded now)) :=
  insertAccount_eq_ok.mpr ⟨h, rfl, rfl⟩

theorem authnameTaken_eq (s : Store) (module authname : String) :
    s.authnameTaken module authname = (s.link? module authname).isSome := by
  rw [Bool.eq_iff_iff]
  simp [authnameTaken, link?]

theorem insertAuthmap_of_taken (h : s.link? module authname = some m) (uid : Int) :
    s.insertAuthmap uid module authname = .error (.authnameTaken authname) := by
  have ht : s.authnameTaken module authname = true := by
    rw [authnameTaken_eq, h]
    rfl
  rw [insertAuthmap, if_pos ht]

theorem insertAuthmap_eq_ok :
    s.insertAuthmap uid module authname = .ok (m, s') ↔
      s.link? module authname = none ∧ (∃ a ∈ s.accounts, a.uid = uid) ∧
        m = s.nextAuthmap uid module authname ∧ s' = s.addAuthmap m := by
  cases hl : s.link? module authname with
  | some m' => simp [insertAuthmap_of_taken hl]
  | none =>
    by_cases hu : ∃ a ∈ s.accounts, a.uid = uid
    · have hall : (s.accounts.all fun a => a.uid != uid) = false := by simpa using hu
      simp only [insertAuthmap, authnameTaken_eq, hl, hall, Option.isSome_none, Bool.false_eq_true,
        ↓reduceIte, Except.ok.injEq, Prod.mk.injEq, true_and, hu]
      constructor
      · rintro ⟨rfl, rfl⟩
        exact ⟨rfl, rfl⟩
      · rintro ⟨rfl, rfl⟩
        exact ⟨rfl, rfl⟩
    · have hall : (s.accounts.all fun a => a.uid != uid) = true := by simpa using hu
      simp [insertAuthmap, authnameTaken_eq, hl, hall, hu]

theorem createAccount_cases (s : Store) (n : NewAccount) (now : Instant) :
    (s.createAccount n now).2 = s ∨
      s.nameTaken n.name = false ∧
        (s.createAccount n now).2 = s.addAccount (s.nextAccount n n.ldapExcluded now) := by
  unfold createAccount
  split
  · exact Or.inl rfl
  · rename_i hi
    obtain ⟨hn, rfl, rfl⟩ := insertAccount_eq_ok.mp hi
    exact Or.inr ⟨hn, rfl⟩

theorem createAuthmap_cases (s : Store) (uid : Int) (module authname : String) :
    (∃ e, s.createAuthmap uid module authname = (.error e, s)) ∨
      s.link? module authname = none ∧ (∃ a ∈ s.accounts, a.uid = uid) ∧
        s.createAuthmap uid module authname =
          (.ok (s.nextAuthmap uid module authname),
            s.addAuthmap (s.nextAuthmap uid module authname)) := by
  unfold createAuthmap
  split
  · rename_i e _
    exact Or.inl ⟨e, rfl⟩
  · rename_i hi
    obtain ⟨hl, hu, rfl, rfl⟩ := insertAuthmap_eq_ok.mp hi
    exact Or.inr ⟨hl, hu, rfl⟩

theorem createAuthmap_eq_error {e : StoreError}
    (h : (s.createAuthmap uid module authname).1 = .error e) :
    e = .authnameTaken authname ∨ e = .unknownAccount uid ∧ ∀ a ∈ s.accounts, a.uid ≠ uid := by
  simp only [createAuthmap, insertAuthmap] at h
  cases ht : s.authnameTaken module authname with
  | true =>
    simp only [ht, ↓reduceIte] at h
    exact .inl (Except.error.inj h).symm
  | false =>
    cases hu : s.accounts.all (·.uid != uid) with
    | true =>
      simp only [ht, hu, Bool.false_eq_true, ↓reduceIte] at h
      exact .inr ⟨(Except.error.inj h).symm, by simpa using hu⟩
    | false =>
      simp only [ht, hu, Bool.false_eq_true, ↓reduceIte] at h
      cases h

theorem createAuthmap_ok (hl : s.link? module authname = none) (hu : ∃ a ∈ s.accounts, a.uid = uid) :
    s.createAuthmap uid module authname =
      (.ok (s.nextAuthmap uid module authname),
        s.addAuthmap (s.nextAuthmap uid module authname)) := by
  have hi := insertAuthmap_eq_ok.mpr ⟨hl, hu, rfl, rfl⟩
  rw [createAuthmap, hi]

/-- The store with a new account and its link. -/
def addLinked (s : Store) (a : Account) (module authname : String) : Store :=
  (s.addAccount a).addAuthmap ((s.addAccount a).nextAuthmap a.uid module authname)

theorem provisionAccount_cases (s : Store) (n : NewAccount) (module authname : String)
    (now : Instant) :
    (∃ e, s.provisionAccount n module authname now = (.error e, s)) ∨
      s.nameTaken n.name = false ∧ s.link? module authname = none ∧
        s.provisionAccount n module authname now =
          (readAccount (s.nextAccount n false now),
            s.addLinked (s.nextAccount n false now) module authname) := by
  unfold provisionAccount
  split
  · rename_i e _
    exact Or.inl ⟨e, rfl⟩
  · rename_i hi
    obtain ⟨hn, rfl, rfl⟩ := insertAccount_eq_ok.mp hi
    split
    · rename_i e _
      exact Or.inl ⟨e, rfl⟩
    · rename_i hm
      obtain ⟨hl, -, rfl, rfl⟩ := insertAuthmap_eq_ok.mp hm
      exact Or.inr ⟨hn, hl, rfl⟩

theorem provisionAccount_eq_error {n : NewAccount} {now : Instant} {e : StoreError}
    (h : (s.provisionAccount n module authname now).1 = .error e) :
    e = .nameTaken n.name ∨ e = .authnameTaken authname ∨
      readAccount (s.nextAccount n false now) = .error e := by
  cases hn : s.nameTaken n.name with
  | true =>
    simp only [provisionAccount, insertAccount, hn, ↓reduceIte] at h
    exact .inl (Except.error.inj h).symm
  | false =>
    simp only [provisionAccount, insertAccount_of_free hn] at h
    split at h
    · rename_i e' hi
      have hcreate : ((s.addAccount (s.nextAccount n false now)).createAuthmap
          (s.nextAccount n false now).uid module authname).1 = .error e := by
        rw [createAuthmap, hi]
        exact congrArg Except.error (Except.error.inj h)
      rcases createAuthmap_eq_error hcreate with he | ⟨-, hmissing⟩
      · exact .inr (.inl he)
      · exact absurd rfl (hmissing _ (List.mem_append_right _ (List.mem_singleton_self _)))
    · exact .inr (.inr h)

theorem provisionAccount_eq {n : NewAccount} {now : Instant} (hn : s.nameTaken n.name = false)
    (hl : s.link? module authname = none) :
    s.provisionAccount n module authname now =
      (readAccount (s.nextAccount n false now),
        s.addLinked (s.nextAccount n false now) module authname) := by
  have hm : ∀ a, (s.addAccount a).insertAuthmap a.uid module authname =
      .ok ((s.addAccount a).nextAuthmap a.uid module authname, s.addLinked a module authname) :=
    fun a => insertAuthmap_eq_ok.mpr
      ⟨hl, ⟨a, List.mem_append_right _ (List.mem_singleton_self a), rfl⟩, rfl, rfl⟩
  simp only [provisionAccount, insertAccount_of_free hn, hm]

theorem ensureSiteOwner_cases (s : Store) (n : NewAccount) (now : Instant) :
    (s.ensureSiteOwner n now).2 = s ∨
      (∀ a ∈ s.accounts, a.uid ≠ siteOwnerUid) ∧ s.nameTaken n.name = false ∧
        s.ensureSiteOwner n now =
          (readAccount (NewAccount.row n siteOwnerUid false now),
            s.addOwner (NewAccount.row n siteOwnerUid false now)) := by
  unfold ensureSiteOwner
  split
  · exact Or.inl rfl
  · exact Or.inl rfl
  · rename_i ha
    split
    · exact Or.inl rfl
    · rename_i hn
      exact Or.inr ⟨account_eq_none ha, by simpa using hn, rfl⟩

/-- Where there is no owner and the name is free, the owner's account is made. -/
theorem ensureSiteOwner_new {n : NewAccount} (hnew : ∀ a ∈ s.accounts, a.uid ≠ siteOwnerUid)
    (hn : s.nameTaken n.name = false) (now : Instant) :
    (s.ensureSiteOwner n now).2 = s.addOwner (NewAccount.row n siteOwnerUid false now) := by
  have hnone : s.account siteOwnerUid = .ok none := by
    have hfind : s.accounts.find? (·.uid == siteOwnerUid) = none :=
      List.find?_eq_none.mpr fun a ha => by simpa using hnew a ha
    rw [account, hfind]
    rfl
  simp only [ensureSiteOwner, hnone, hn, Bool.false_eq_true, ↓reduceIte]
  rfl

/-- An owner whose name is trimmed is found by it. -/
theorem accountByName_addOwner (hname : Text.trim a.name = a.name) (hr : readAccount a = .ok a) :
    (s.addOwner a).accountByName a.name = .ok (some a) := by
  have hsame : sameName a.name (Text.trim a.name) = true := by
    rw [hname]
    exact sameName_self a.name
  exact readOptional_eq_some_iff.mpr ⟨List.find?_cons_of_pos hsame, hr⟩

theorem link?_addAuthmap (h : s.link? module authname = none) :
    (s.addAuthmap (s.nextAuthmap uid module authname)).link? module authname =
      some (s.nextAuthmap uid module authname) := by
  unfold link? at h
  simp [link?, addAuthmap, nextAuthmap, List.find?_append, h]

/-! ## Changing -/

theorem mem_modify {change : Account → Account} :
    b ∈ (s.modify uid change).accounts ↔
      ∃ a ∈ s.accounts, (if a.uid == uid then change a else a) = b := by
  simp [modify]

theorem uid_of_mem_modify {change : Account → Account} (hu : ∀ a, (change a).uid = a.uid)
    (hb : b ∈ (s.modify uid change).accounts) : ∃ a ∈ s.accounts, b.uid = a.uid := by
  obtain ⟨a, ha, rfl⟩ := mem_modify.mp hb
  refine ⟨a, ha, ?_⟩
  split
  · exact hu a
  · rfl

theorem row?_modify {change : Account → Account} (hu : ∀ a, (change a).uid = a.uid) (s : Store)
    (uid uid' : Int) :
    (s.modify uid change).row? uid' =
      (s.row? uid').map fun a => if a.uid == uid then change a else a := by
  have huid : ((·.uid == uid') ∘ fun a : Account => if a.uid == uid then change a else a) =
      (·.uid == uid') := by
    funext a
    simp only [Function.comp]
    split
    · rw [hu]
    · rfl
  rw [row?, modify, List.find?_map, huid]
  rfl

theorem row?_modify_self {change : Account → Account} (hu : ∀ a, (change a).uid = a.uid)
    (h : s.row? uid = some a) : (s.modify uid change).row? uid = some (change a) := by
  have ha := List.find?_some (p := fun b : Account => b.uid == uid) h
  rw [row?_modify hu, h, Option.map_some, if_pos ha]

/-- A change to one account leaves the others as they are. -/
theorem map_change_of_ne {accounts : List Account} (h : ∀ b ∈ accounts, b.uid ≠ uid)
    (change : Account → Account) :
    (accounts.map fun b => if b.uid == uid then change b else b) = accounts := by
  refine (List.map_congr_left fun b hb => ?_).trans (List.map_id' accounts)
  rw [beq_eq_false_iff_ne.mpr (h b hb)]
  rfl

theorem modify_id (s : Store) (uid : Int) : s.modify uid (fun a => a) = s := by
  simp [modify]

theorem modify_modify (s : Store) {change change' : Account → Account}
    (hc : ∀ a, (change a).uid = a.uid) :
    (s.modify uid change).modify uid change' = s.modify uid (change' ∘ change) := by
  have hf : ∀ a : Account,
      (if (if a.uid == uid then change a else a).uid == uid then
        change' (if a.uid == uid then change a else a)
      else if a.uid == uid then change a else a) =
        if a.uid == uid then (change' ∘ change) a else a := by
    intro a
    cases ha : a.uid == uid with
    | false => simp [ha]
    | true => simp [hc, ha]
  simp only [modify, List.map_map, Function.comp_def] at hf ⊢
  simp only [hf]

/-! ## Stores that can be read -/

/-- All accounts of the store can be read. -/
def Readable (s : Store) : Prop := ∀ a ∈ s.accounts, readAccount a = .ok a

theorem Readable.modify (h : Readable s) {change : Account → Account}
    (hchange : ∀ a, readAccount a = .ok a → readAccount (change a) = .ok (change a)) :
    Readable (s.modify uid change) := by
  intro b hb
  obtain ⟨a, ha, rfl⟩ := mem_modify.mp hb
  split
  · exact hchange a (h a ha)
  · exact h a ha

end DirectoryLogin.Store
