import DirectoryLogin.Proofs.Account.Script
import DirectoryLogin.Proofs.Account.Store

/-!
# Stores with other hashes

A store looks at no hash: it keeps the hashes of its accounts and gives them out again. A `Mask`
puts others in their place, and what a masked store answers is what the store itself answers, masked.

* `Mask.account`, `Mask.store`: accounts and stores with other hashes in them;
* `account_store`, `provisionAccount_store` and the like: what the operations of a store come to;
* `Mask.Follows`: a script does in a masked store what another one does in the store itself;
  `Follows.bind` follows two scripts step by step.
-/

namespace DirectoryLogin

open Store (Script)
open Time (Instant)

/-- Other hashes in the place of the stored ones, where there are any. -/
structure Mask where
  hash : (uid : Int) → Option String → Option String
  hash_none : ∀ uid, hash uid none = none

namespace Mask

variable (mask : Mask)

def account (a : Account) : Account := { a with passHash := mask.hash a.uid a.passHash }

def store (s : Store) : Store := { s with accounts := s.accounts.map mask.account }

/-! ## Reading -/

theorem readAccount_account (a : Account) :
    Store.readAccount (mask.account a) = (Store.readAccount a).map mask.account := by
  have same : Store.unreadable? (mask.account a) = Store.unreadable? a := rfl
  rw [Store.readAccount_eq, Store.readAccount_eq, same]
  cases Store.unreadable? a <;> rfl

theorem readOptional_map (a : Option Account) :
    Store.readOptional (a.map mask.account) =
      (Store.readOptional a).map (Option.map mask.account) := by
  cases a with
  | none => rfl
  | some a =>
    simp only [Option.map_some, Store.readOptional, readAccount_account]
    cases Store.readAccount a <;> rfl

theorem account_store (s : Store) (uid : Int) :
    (mask.store s).account uid = (s.account uid).map (Option.map mask.account) := by
  unfold Store.account
  rw [← readOptional_map]
  exact congrArg Store.readOptional List.find?_map

theorem accountByName_store (s : Store) (name : String) :
    (mask.store s).accountByName name = (s.accountByName name).map (Option.map mask.account) := by
  unfold Store.accountByName
  rw [← readOptional_map]
  exact congrArg Store.readOptional List.find?_map

theorem accountByAuthname_store (s : Store) (module authname : String) :
    (mask.store s).accountByAuthname module authname =
      (s.accountByAuthname module authname).map (Option.map mask.account) := by
  have links : (mask.store s).authmaps = s.authmaps := rfl
  unfold Store.accountByAuthname
  rw [links]
  split
  · exact mask.account_store s _
  · rfl

theorem listAccounts_store (s : Store) :
    (mask.store s).listAccounts = s.listAccounts.map (List.map mask.account) := by
  have each : ∀ accounts : List Account, (accounts.map mask.account).mapM Store.readAccount =
      Except.map (List.map mask.account) (accounts.mapM Store.readAccount) := by
    intro accounts
    induction accounts with
    | nil => rfl
    | cons a rest ih =>
      simp only [List.map_cons, List.mapM_cons, readAccount_account, ih]
      cases Store.readAccount a with
      | error e => rfl
      | ok a => cases rest.mapM Store.readAccount <;> rfl
  exact each s.accounts

/-! ## Writing -/

/-- An answer of the store under a mask. -/
def answer {α β : Type} (f : α → β) (x : Answer α) : Answer β := (x.1.map f, mask.store x.2)

theorem modify_store (s : Store) (uid : Int) {change : Account → Account}
    (h : ∀ a, change (mask.account a) = mask.account (change a)) :
    (mask.store s).modify uid change = mask.store (s.modify uid change) := by
  have each : ∀ a,
      (if (mask.account a).uid == uid then change (mask.account a) else mask.account a) =
        mask.account (if a.uid == uid then change a else a) := by
    intro a
    rw [h, apply_ite mask.account]
    rfl
  simp only [Store.modify, store, List.map_map, Function.comp_def, each]

theorem insertAuthmap_store (s : Store) (uid : Int) (module authname : String) :
    (mask.store s).insertAuthmap uid module authname =
      (s.insertAuthmap uid module authname).map (Prod.map id mask.store) := by
  have taken : (mask.store s).authnameTaken module authname = s.authnameTaken module authname := rfl
  have known : (mask.store s).accounts.all (·.uid != uid) = s.accounts.all (·.uid != uid) :=
    List.all_map
  unfold Store.insertAuthmap
  rw [taken, known]
  split
  · rfl
  · split <;> rfl

theorem createAuthmap_store (s : Store) (uid : Int) (module authname : String) :
    (mask.store s).createAuthmap uid module authname =
      mask.answer id (s.createAuthmap uid module authname) := by
  unfold Store.createAuthmap
  rw [insertAuthmap_store]
  cases s.insertAuthmap uid module authname <;> rfl

variable {n : NewAccount}

theorem insertAccount_store (h : n.passHash = none) (s : Store) (excluded : Bool) (now : Instant) :
    (mask.store s).insertAccount n excluded now =
      (s.insertAccount n excluded now).map (Prod.map mask.account mask.store) := by
  have taken : (mask.store s).nameTaken n.name = s.nameTaken n.name := List.any_map
  unfold Store.insertAccount
  rw [taken]
  split
  · rfl
  · simp [Except.map, store, account, Store.NewAccount.row, h, mask.hash_none]

/-- An account that is made without a hash has none under a mask. -/
theorem provisionAccount_store (h : n.passHash = none) (s : Store) (module authname : String)
    (now : Instant) :
    (mask.store s).provisionAccount n module authname now =
      mask.answer mask.account (s.provisionAccount n module authname now) := by
  unfold Store.provisionAccount
  rw [insertAccount_store mask h]
  cases s.insertAccount n false now with
  | error e => rfl
  | ok made =>
    obtain ⟨a, s₁⟩ := made
    have uid : (mask.account a).uid = a.uid := rfl
    simp only [Except.map, Prod.map, uid, insertAuthmap_store, readAccount_account]
    cases s₁.insertAuthmap a.uid module authname <;> rfl

/-! ## Scripts -/

variable {ε α α' β β' : Type}

/-- The script `m'` does in a masked store what `m` does in the store itself. -/
def Follows (f : α → α') (m : Script ε α) (m' : Script ε α') : Prop :=
  ∀ s, m'.run (mask.store s) = ((m.run s).1.map f, mask.store (m.run s).2)

namespace Follows

variable {mask} {f : α → α'} {g : β → β'}

theorem pure (a : α) : mask.Follows f (pure a : Script ε α) (Pure.pure (f a)) := fun _ => rfl

theorem fail (e : ε) : mask.Follows f (Script.fail e) (Script.fail e) := fun _ => rfl

theorem ask {c : Store.Call} {f : c.Reply → c.Reply} (wrap : StoreError → ε)
    (h : ∀ s, (mask.store s).perform c = mask.answer f (s.perform c)) :
    mask.Follows f (Script.ask wrap c) (Script.ask wrap c) := by
  intro s
  simp only [Script.run_ask, h, answer]
  cases (s.perform c).1 <;> rfl

theorem bind {m : Script ε α} {m' : Script ε α'} {k : α → Script ε β} {k' : α' → Script ε β'}
    (h : mask.Follows f m m') (hk : ∀ a, mask.Follows g (k a) (k' (f a))) :
    mask.Follows g (m >>= k) (m' >>= k') := by
  intro s
  have hm := h s
  rw [Script.run_bind, Script.run_bind, hm]
  rcases m.run s with ⟨result, s'⟩
  cases result with
  | error e => rfl
  | ok a => exact hk a s'

end Follows

end Mask

end DirectoryLogin
