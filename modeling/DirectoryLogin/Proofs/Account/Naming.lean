import DirectoryLogin.Proofs.Account.History

/-!
# Finding accounts by their names

An account is stored under its name as it was given. A name that is looked up is trimmed first.

* `sameName_trim_iff`: a name is the same as what trimming leaves of it only if that is all of it;
* `WellFormed.accountByName_self_iff`: when an account is found by its own name;
* `Call.stamp?` and `after_readable`: calls that store readable timestamps leave accounts that can
  be read.
-/

namespace DirectoryLogin.Store

open Time (Instant)

variable {s : Store} {c : Call} {cs : List Call} {a : Account} {uid : Int}

/-! ## Names -/

theorem sameName_trim_iff {name : String} :
    sameName name (Text.trim name) = true ↔ Text.trim name = name := by
  constructor
  · intro h
    simp only [sameName, Bool.and_eq_true, beq_iff_eq] at h
    exact Text.trim_eq_self_iff.mpr h.1.symm
  · intro h
    rw [h]
    exact sameName_self name

/-- An account is found by its own name just when it can be read and its name is trimmed. -/
theorem WellFormed.accountByName_self_iff (h : s.WellFormed) (ha : a ∈ s.accounts) :
    s.accountByName a.name = .ok (some a) ↔ readAccount a = .ok a ∧ Text.trim a.name = a.name := by
  constructor
  · intro hfound
    exact ⟨(readOptional_eq_some_iff.mp hfound).2,
      sameName_trim_iff.mp (accountByName_eq_some hfound).2⟩
  · rintro ⟨hr, hname⟩
    exact h.accountByName_of_mem ha hr (sameName_trim_iff.mpr hname)

/-- The only account of a store is missed under its own name if that has white space at an end. -/
theorem accountByName_addOwner_untrimmed (h : Text.trim a.name ≠ a.name) :
    (empty.addOwner a).accountByName a.name = .ok none := by
  have hdiffers : sameName a.name (Text.trim a.name) = false := by
    rw [← Bool.not_eq_true]
    exact mt sameName_trim_iff.mp h
  simp [accountByName, addOwner, empty, readOptional, hdiffers]

/-! ## Timestamps -/

/-- The timestamp that a call stores if it succeeds. -/
def Call.stamp? : Call → Option Instant
  | createAccount _ now | ensureSiteOwner _ now | provisionAccount _ _ _ now => some now
  | touchLogin _ at_ => some at_
  | _ => none

theorem Readable.perform (h : Readable s)
    (hc : ∀ t, c.stamp? = some t → Time.fourDigitYear t = true) : Readable (s.perform c).2 := by
  cases c with
  | createAccount n now =>
    show Readable (s.createAccount n now).2
    rcases createAccount_cases s n now with he | ⟨-, he⟩
    · rwa [he]
    · rw [he]
      exact forall_mem_concat h (readAccount_row n n.ldapExcluded now (hc now rfl))
  | ensureSiteOwner n now =>
    show Readable (s.ensureSiteOwner n now).2
    rcases ensureSiteOwner_cases s n now with he | ⟨-, -, he⟩
    · rwa [he]
    · rw [he]
      exact List.forall_mem_cons.mpr ⟨readAccount_row n false now (hc now rfl), h⟩
  | provisionAccount n module authname now =>
    show Readable (s.provisionAccount n module authname now).2
    rcases provisionAccount_cases s n module authname now with ⟨e, he⟩ | ⟨-, -, he⟩
    · rwa [he]
    · rw [he]
      exact forall_mem_concat h (readAccount_row n false now (hc now rfl))
  | createAuthmap uid module authname =>
    show Readable (s.createAuthmap uid module authname).2
    rcases createAuthmap_cases s uid module authname with ⟨e, he⟩ | ⟨-, -, he⟩
    · rwa [he]
    · rwa [he]
  | touchLogin uid at_ =>
    exact h.modify fun _ ha => readAccount_touched ha rfl rfl (hc at_ rfl)
  | updateMail uid | updateRoles uid | setStatus uid | setLdapExcluded uid =>
    exact h.modify fun _ ha => readAccount_of_times ha rfl rfl
  | account | accountByName | listAccounts | accountByAuthname | authmap | saveSettings
  | savedSettings | healthCheck | reopen => exact h

theorem after_readable (h : ∀ c ∈ cs, ∀ t, c.stamp? = some t → Time.fourDigitYear t = true) :
    Readable (empty.after cs) := by
  induction cs using List.reverseRecOn with
  | nil => exact fun _ ha => nomatch ha
  | append_singleton cs c ih =>
    obtain ⟨hearlier, hlast⟩ := List.forall_mem_append.mp h
    rw [after_concat]
    exact (ih hearlier).perform (hlast c (List.mem_singleton_self c))

end DirectoryLogin.Store
