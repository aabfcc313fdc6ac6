import DirectoryLogin.Proofs.Account.History
import DirectoryLogin.Proofs.Account.Script

/-!
# Provisioning

Provisioning makes an account and links it as one call of its own, with insertions of its own.

* `createAndLink_of_taken`, `createAndLink_of_linked`, `createAndLink_of_free`: how the two calls
  come out one after the other;
* `provisionAccount_atomic`: provisioning succeeds and fails as they do, and leaves what they leave
  if both succeed, and the store as it was if either fails.
-/

namespace DirectoryLogin.Store

open Time (Instant)

variable {s : Store} {n : NewAccount} {module authname : String} {m : Authmap} {now later : Instant}

/-! ## The insertions -/

theorem createAccount_of_taken (h : s.nameTaken n.name = true) (now : Instant) :
    s.createAccount n now = (.error (.nameTaken n.name), s) := by
  rw [createAccount, insertAccount_of_taken h]

theorem createAccount_of_free (h : s.nameTaken n.name = false)
    (hnow : Time.fourDigitYear now = true) :
    s.createAccount n now = (.ok (s.nextAccount n n.ldapExcluded now),
      s.addAccount (s.nextAccount n n.ldapExcluded now)) := by
  rw [createAccount, insertAccount_of_free h]
  exact congrArg (·, _) (readAccount_row n n.ldapExcluded now hnow)

theorem createAuthmap_of_taken (h : s.link? module authname = some m) (uid : Int) :
    s.createAuthmap uid module authname = (.error (.authnameTaken authname), s) := by
  rw [createAuthmap, insertAuthmap_of_taken h]

theorem provisionAccount_of_taken (h : s.nameTaken n.name = true) (module authname : String)
    (now : Instant) :
    s.provisionAccount n module authname now = (.error (.nameTaken n.name), s) := by
  rw [provisionAccount, insertAccount_of_taken h]

theorem provisionAccount_of_linked (h : s.nameTaken n.name = false)
    (hm : s.link? module authname = some m) (now : Instant) :
    s.provisionAccount n module authname now = (.error (.authnameTaken authname), s) := by
  have hlinked : (s.addAccount (s.nextAccount n false now)).link? module authname = some m := hm
  simp only [provisionAccount, insertAccount_of_free h, insertAuthmap_of_taken hlinked]

/-! ## One call after the other -/

/-- Makes an account, and then links it in a call of its own. -/
def createAndLink (n : NewAccount) (module authname : String) (now : Instant) :
    Script StoreError Account := do
  let a ← .ask id (.createAccount n now)
  let _ ← .ask id (.createAuthmap a.uid module authname)
  return a

theorem createAndLink_of_taken (h : s.nameTaken n.name = true) (module authname : String)
    (now : Instant) :
    (createAndLink n module authname now).run s = (.error (.nameTaken n.name), s) := by
  have hcreate : s.perform (.createAccount n now) = (.error (.nameTaken n.name), s) :=
    createAccount_of_taken h now
  exact Script.run_bind_error (Script.run_ask_error hcreate) _

section Made

variable {a : Account} (h : s.createAccount n now = (.ok a, s.addAccount a))

include h

theorem createAndLink_of_made (module authname : String) :
    (createAndLink n module authname now).run s =
      (Script.ask id (.createAuthmap a.uid module authname) >>= fun _ => pure a).run
        (s.addAccount a) := by
  have hcreate : s.perform (.createAccount n now) = (.ok a, s.addAccount a) := h
  exact Script.run_bind_ok (Script.run_ask_ok hcreate) _

/-- Where only the link is refused, the account that was made for it stays behind. -/
theorem createAndLink_of_linked (hm : s.link? module authname = some m) :
    (createAndLink n module authname now).run s =
      (.error (.authnameTaken authname), s.addAccount a) := by
  have hlink : (s.addAccount a).perform (.createAuthmap a.uid module authname) =
      (.error (.authnameTaken authname), s.addAccount a) :=
    createAuthmap_of_taken (s := s.addAccount a) hm a.uid
  rw [createAndLink_of_made h]
  exact Script.run_bind_error (Script.run_ask_error hlink) _

theorem createAndLink_of_free (hl : s.link? module authname = none) :
    (createAndLink n module authname now).run s = (.ok a, s.addLinked a module authname) := by
  have hlink : (s.addAccount a).perform (.createAuthmap a.uid module authname) =
      (.ok ((s.addAccount a).nextAuthmap a.uid module authname),
        s.addLinked a module authname) :=
    createAuthmap_ok (s := s.addAccount a) hl
      ⟨a, List.mem_append_right _ (List.mem_singleton_self a), rfl⟩
  rw [createAndLink_of_made h]
  exact Script.run_bind_ok (Script.run_ask_ok hlink) _

end Made

/-! ## Both at one stroke -/

/-- Provisioning comes to the same as making the account and then linking it, each at a readable
clock of its own, if both succeed. If either is refused, it is refused for the same reason and
leaves the store as it was. -/
theorem provisionAccount_atomic (s : Store) (module authname : String)
    (hn : n.ldapExcluded = false) (hnow : Time.fourDigitYear now = true)
    (hlater : Time.fourDigitYear later = true) :
    (∀ a s', (createAndLink n module authname now).run s = (.ok a, s') →
      s'.accounts = s.accounts ++ [a] ∧
      s.provisionAccount n module authname later =
        (.ok { a with createdAt := later },
          { s' with accounts := s.accounts ++ [{ a with createdAt := later }] })) ∧
    ∀ e s', (createAndLink n module authname now).run s = (.error e, s') →
      s.provisionAccount n module authname later = (.error e, s) := by
  cases ht : s.nameTaken n.name with
  | true =>
    rw [createAndLink_of_taken ht, provisionAccount_of_taken ht]
    constructor
    · intro a s' h
      cases h
    · intro e s' h
      cases h
      rfl
  | false =>
    have hmade := createAccount_of_free ht hnow
    cases hl : s.link? module authname with
    | some m =>
      rw [createAndLink_of_linked hmade hl, provisionAccount_of_linked ht hl]
      constructor
      · intro a s' h
        cases h
      · intro e s' h
        cases h
        rfl
    | none =>
      have hread : readAccount (s.nextAccount n false later) = .ok (s.nextAccount n false later) :=
        readAccount_row n false later hlater
      rw [createAndLink_of_free hmade hl, provisionAccount_eq ht hl, hn, hread]
      constructor
      · intro a s' h
        cases h
        exact ⟨rfl, rfl⟩
      · intro e s' h
        cases h

end DirectoryLogin.Store

/-! ## An account for a person of whom an identity is linked already -/

namespace DirectoryLogin

open Store

namespace Sample

/-- The moment at which the sample accounts are made. -/
def opening : Time.Instant := ⟨1700000000, 0⟩

/-- A store in which `hpotter` has an account and is linked to it. -/
def linkedStore : Store :=
  empty.after [.createAccount ⟨"hpotter", none, none, false, []⟩ opening,
    .createAuthmap 2 directoryModule "hpotter"]

/-- An account that is asked for under another name. -/
def secondAccount : NewAccount := ⟨"harry", some "harry@hogwarts.edu", none, false, ["student"]⟩

end Sample

/-- The account is made and linked under an authname that is free, and not made under the one that
is linked already, where a call of its own would have left it behind. -/
theorem sample_provisioning :
    Sample.secondAccount.ldapExcluded = false ∧ Time.fourDigitYear Sample.opening = true ∧
      Time.fourDigitYear ⟨1700000060, 0⟩ = true ∧
      (Sample.linkedStore.provisionAccount Sample.secondAccount directoryModule "harry"
        ⟨1700000060, 0⟩).1 = .ok ⟨3, "harry", some "harry@hogwarts.edu", none, .active, false,
          ["student"], ⟨1700000060, 0⟩, none⟩ ∧
      Sample.linkedStore.provisionAccount Sample.secondAccount directoryModule "hpotter"
        ⟨1700000060, 0⟩ = (.error (.authnameTaken "hpotter"), Sample.linkedStore) ∧
      ((createAndLink Sample.secondAccount directoryModule "hpotter" Sample.opening).run
        Sample.linkedStore).2.lastUid = 3 := by
  have hopening : Time.fourDigitYear Sample.opening = true := by decide +kernel
  have hlater : Time.fourDigitYear ⟨1700000060, 0⟩ = true := by decide +kernel
  have hmade : ((createAndLink Sample.secondAccount directoryModule "harry" Sample.opening).run
      Sample.linkedStore).1 = .ok ⟨3, "harry", some "harry@hogwarts.edu", none, .active, false,
        ["student"], Sample.opening, none⟩ := by
    decide +kernel
  have hrefused : ((createAndLink Sample.secondAccount directoryModule "hpotter"
      Sample.opening).run Sample.linkedStore).1 = .error (.authnameTaken "hpotter") := by
    decide +kernel
  have hsuccess := (provisionAccount_atomic Sample.linkedStore directoryModule "harry" rfl hopening
    hlater).1 _ _ (Prod.ext (y := (_, _)) hmade rfl)
  have hfailure := (provisionAccount_atomic Sample.linkedStore directoryModule "hpotter" rfl
    hopening hlater).2 _ _ (Prod.ext (y := (_, _)) hrefused rfl)
  exact ⟨rfl, hopening, hlater, congrArg Prod.fst hsuccess.2, hfailure, by decide +kernel⟩

end DirectoryLogin
