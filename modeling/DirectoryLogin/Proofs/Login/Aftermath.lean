import DirectoryLogin.Proofs.Login.Admission
import DirectoryLogin.Proofs.Login.Frame

/-!
# The account after an admission

An identity that is admitted gets its account up to date: with the roles that were granted, the mail
address that the directory offers and the time of the login. The account that the login returns is
the one that is stored.

* `Offers`: the mail address for an account, by the directory or by the template;
* `Aftermath`: what the returned account has to do with the stores before and after;
* `Mapping.Ending.aftermath`, `LoginRequest.account_after_admission`: every mapping that succeeds
  leaves it so, and therefore every login through a directory.
-/

namespace DirectoryLogin

open Settings (Authentication)
open Time (Instant)

/-- The mail address of the entry, or else the one that a template makes, unless it is empty. -/
inductive Offers (c : Authentication) (i : Identity) : String → Prop
  | directory (mail : String) : i.mail = some mail → Offers c i mail
  | template (template : String) :
      i.mail = none → c.mailTemplate = some template → template ≠ "" →
      Offers c i (Text.replaceAll template Settings.usernamePlaceholder i.accountName)

theorem mailFor_eq_some_iff {c : Authentication} {i : Identity} {mail : String} :
    Mapping.mailFor c i = some mail ↔ Offers c i mail := by
  have hfor : Mapping.mailFor c i = i.mail.or ((c.mailTemplate.filter (!·.isEmpty)).map fun t =>
      Text.replaceAll t Settings.usernamePlaceholder i.accountName) := by
    unfold Mapping.mailFor
    cases i.mail <;> rfl
  rw [hfor, Option.or_eq_some_iff, Option.map_eq_some_iff]
  constructor
  · rintro (hmail | ⟨hmail, t, ht, rfl⟩)
    · exact .directory mail hmail
    · obtain ⟨ht, hne⟩ := Option.filter_eq_some_iff.mp ht
      exact .template t hmail ht (by simpa using hne)
  · intro hoffers
    cases hoffers with
    | directory _ hmail => exact .inl hmail
    | template t hmail ht hne =>
      exact .inr ⟨hmail, t, Option.filter_eq_some_iff.mpr ⟨ht, by simpa using hne⟩, rfl⟩

/-- How the account `a` of an identity stands after a login that was decided with the `grants`. The
store was `before`, and is `after`; `provisioned` tells whether the login made the account. -/
structure Aftermath (c : Authentication) (now : Instant) (i : Identity)
    (grants : Option (List String)) (before after : Store) (a : Account) (provisioned : Bool) :
    Prop where
  /-- The account is stored as it is returned, -/
  stored : after.row? a.uid = some a
  /-- and it can be read if the time of the login can. -/
  readable : Time.fourDigitYear now = true → after.account a.uid = .ok (some a)
  roles : ∀ granted, grants = some granted → a.roles = granted
  rolesKept : grants = none → a.roles = (before.row? a.uid).elim [] Account.roles
  mail : ∀ mail, Offers c i mail → provisioned = true ∨ c.mailUpdate = .onEveryLogin →
    a.mail = some mail
  mailKept : (¬ ∃ mail, Offers c i mail ∧ (provisioned = true ∨ c.mailUpdate = .onEveryLogin)) →
    a.mail = (before.row? a.uid).bind Account.mail
  lastLogin : a.lastLogin = some now
  provisioned_iff : provisioned = true ↔ ∀ b ∈ before.accounts, b.uid ≠ a.uid

variable {c : Authentication} {now : Instant} {i : Identity} {grants : Option (List String)}
  {s s' : Store}

namespace Mapping

variable {t : Terms} {mail : Option String} {a : Account}

theorem update_mail : (update t mail a a).mail =
    if t.settings.mailUpdate = .onEveryLogin ∧ mail.isSome then mail else a.mail := by
  simp only [update, mailWritten, Bool.and_eq_true, beq_iff_eq, bne_iff_ne]
  by_cases hsame : a.mail = mail
  · simp [hsame]
  · simp [hsame]

theorem update_roles :
    (update (Login.terms c now grants) mail a a).roles = grants.getD a.roles := by
  simp only [update, rolesWritten, Login.terms, Bool.and_eq_true, bne_iff_ne]
  cases grants with
  | none => rfl
  | some granted =>
    by_cases hsame : a.roles = granted
    · simp [hsame]
    · simp [hsame]

/-- The row of an account is brought up to date with it. -/
theorem row?_update (h : s.WellFormed) (ha : a ∈ s.accounts) (hsame : s'.accounts = s.accounts) :
    (s'.modify a.uid (update t mail a)).row? a.uid = some (update t mail a a) := by
  have hrow : s'.row? a.uid = some a := by
    rw [Store.row?, hsame]
    exact h.row?_of_mem ha
  exact Store.row?_modify_self (fun _ => rfl) hrow

/-- An account that is made has its row, with the time of the login in it. -/
theorem row?_newcomer (h : s.WellFormed) (hn : s.nameTaken i.accountName = false)
    (hl : s.link? directoryModule i.authname = none) (now : Instant) :
    ((withNewcomer t i s).touchLogin (newcomer t i s).uid now).row? (newcomer t i s).uid =
      some { newcomer t i s with lastLogin := some now } := by
  have hwell : (withNewcomer t i s).WellFormed := h.addLinked rfl hn hl
  have hmem : newcomer t i s ∈ (withNewcomer t i s).accounts :=
    List.mem_append_right _ (List.mem_singleton_self _)
  exact Store.row?_modify_self (fun _ => rfl) (hwell.row?_of_mem hmem)

/-- An account that was there is brought up to date, and so is its row. -/
theorem aftermath_update (h : s.WellFormed) (ha : a ∈ s.accounts)
    (hread : Store.readAccount a = .ok a) (hsame : s'.accounts = s.accounts) :
    Aftermath c now i grants s
      (s'.modify a.uid (update (Login.terms c now grants) (mailFor c i) a))
      (update (Login.terms c now grants) (mailFor c i) a a) false := by
  have hbefore : s.row? a.uid = some a := h.row?_of_mem ha
  have hafter : (s'.modify a.uid (update (Login.terms c now grants) (mailFor c i) a)).row? a.uid =
      some (update (Login.terms c now grants) (mailFor c i) a a) := row?_update h ha hsame
  have huid : (update (Login.terms c now grants) (mailFor c i) a a).uid = a.uid := rfl
  refine ⟨hafter, fun hnow => ?_, ?_, ?_, ?_, ?_, rfl, ?_⟩
  · rw [Store.account_eq, huid, hafter]
    exact Store.readOptional_eq_some_iff.mpr ⟨rfl, Store.readAccount_touched hread rfl rfl hnow⟩
  · rintro granted rfl
    rw [update_roles, Option.getD_some]
  · rintro rfl
    rw [update_roles, huid, hbefore]
    rfl
  · intro mail hoffers hevery
    rw [update_mail, mailFor_eq_some_iff.mpr hoffers, if_pos]
    exact ⟨hevery.resolve_left Bool.false_ne_true, rfl⟩
  · intro hnone
    rw [update_mail, huid, hbefore, if_neg]
    · rfl
    · rintro ⟨hevery, hmail⟩
      obtain ⟨mail, hmail⟩ := Option.isSome_iff_exists.mp hmail
      exact hnone ⟨mail, mailFor_eq_some_iff.mp hmail, .inr hevery⟩
  · exact iff_of_false Bool.false_ne_true fun hnew => hnew a ha rfl

/-- An account that is made has nothing but what it is made with. -/
theorem aftermath_newcomer (h : s.WellFormed) (hn : s.nameTaken i.accountName = false)
    (hl : s.link? directoryModule i.authname = none) :
    let t := Login.terms c now grants
    Aftermath c now i grants s ((withNewcomer t i s).touchLogin (newcomer t i s).uid now)
      { newcomer t i s with lastLogin := some now } true := by
  intro t
  have hnew : ∀ b ∈ s.accounts, b.uid ≠ (newcomer t i s).uid := newcomer_uid_ne h
  have hbefore : s.row? (newcomer t i s).uid = none := Store.row?_eq_none_iff.mpr hnew
  have hafter : ((withNewcomer t i s).touchLogin (newcomer t i s).uid now).row?
      (newcomer t i s).uid = some { newcomer t i s with lastLogin := some now } :=
    row?_newcomer h hn hl now
  refine ⟨hafter, fun hnow => ?_, ?_, ?_, ?_, ?_, rfl, iff_of_true rfl hnew⟩
  · have hread : Store.readAccount (newcomer t i s) = .ok (newcomer t i s) :=
      Store.readAccount_row (fresh t i) false now hnow
    show Store.readOptional (Store.row? _ (newcomer t i s).uid) = _
    rw [hafter]
    exact Store.readOptional_eq_some_iff.mpr ⟨rfl, Store.readAccount_touched hread rfl rfl hnow⟩
  · rintro granted rfl
    rfl
  · rintro rfl
    show [] = (s.row? (newcomer t i s).uid).elim [] Account.roles
    rw [hbefore]
    rfl
  · intro mail hoffers _
    exact mailFor_eq_some_iff.mpr hoffers
  · intro hnone
    show mailFor c i = (s.row? (newcomer t i s).uid).bind Account.mail
    rw [hbefore]
    exact Option.eq_none_iff_forall_ne_some.mpr fun mail hmail =>
      hnone ⟨mail, mailFor_eq_some_iff.mp hmail, .inl rfl⟩

theorem Ending.aftermath {m : Mapped} (h : s.WellFormed)
    (hend : Ending (Login.terms c now grants) i s (.ok m) s') :
    Aftermath c now i grants s s' m.account m.provisioned := by
  cases hend with
  | linked a hl hs =>
    obtain ⟨l, -, haccount, ha, -⟩ := Store.accountByAuthname_eq_some hl
    exact aftermath_update h ha (Store.readOptional_eq_some_iff.mp haccount).2 rfl
  | associated a hlink hl hs =>
    have ha := (Store.accountByName_eq_some hlink.named).1
    exact aftermath_update h ha (Store.readOptional_eq_some_iff.mp hlink.named).2 rfl
  | provisioned hc hn hl => exact aftermath_newcomer h hn hl

end Mapping

/-- A login through a directory, by a password or by a front end, returns the account of its
identity as it is stored from then on. -/
theorem LoginRequest.account_after_admission {r : Realm} {q : LoginRequest} {o : Outcome}
    (h : s.WellFormed) (ho : (q.attempt r c now s).result = .ok o)
    (hm : o.method ≠ .localPassword) :
    ∃ i grants, q.identity? r c s = some i ∧
      Policy.evaluate c r.provider r.rules i = .ok grants ∧
      Aftermath c now i grants s (q.attempt r c now s).store o.account o.provisioned := by
  obtain ⟨i, grants, happ⟩ := attempt_approved ho hm
  exact ⟨i, grants, happ.identified, happ.admitted, happ.ending.aftermath h⟩

/-- The first login of a person at the sample site. -/
theorem sample_account_after_admission : ∃ o,
    (login Sample.realm Sample.settings Sample.now "hpotter" "pass" .empty).result = .ok o ∧
      o.method ≠ .localPassword ∧ Store.empty.WellFormed ∧
      ∃ i grants, (LoginRequest.password "hpotter" "pass").identity? Sample.realm Sample.settings
          .empty = some i ∧
        Policy.evaluate Sample.settings Sample.realm.provider Sample.realm.rules i = .ok grants ∧
        Aftermath Sample.settings Sample.now i grants .empty
          (login Sample.realm Sample.settings Sample.now "hpotter" "pass" .empty).store o.account
          o.provisioned := by
  have hmethod : (login Sample.realm Sample.settings Sample.now "hpotter" "pass"
      .empty).result.toOption.map Outcome.method = some (.directory "hogwarts") := by
    decide +kernel
  obtain ⟨o, ho, hm⟩ := Option.map_eq_some_iff.mp hmethod
  rw [toOption_eq_some_iff] at ho
  have hdirectory : o.method ≠ .localPassword := by simp [hm]
  exact ⟨o, ho, hdirectory, .empty,
    LoginRequest.account_after_admission (q := .password "hpotter" "pass") .empty ho hdirectory⟩

end DirectoryLogin
