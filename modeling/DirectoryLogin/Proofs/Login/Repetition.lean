import DirectoryLogin.Proofs.Login.Aftermath

/-!
# Mapping an identity again

A mapping that succeeds leaves its identity linked to the account that it returns, whether it found
the link, linked an account that was there or made one. The next mapping on the same terms finds the
link, and nothing but the time is left to write.

* `UpToDate`: an identity is linked to an account with which nothing is to be done;
* `UpToDate.run_map`: the mapping of such an identity records the time of the login and no more;
* `Ending.upToDate`: every mapping that succeeds leaves its identity so;
* `map_repeats`: hence the mapping that follows on a mapping repeats it.
-/

namespace DirectoryLogin.Mapping

open Time (Instant)

variable {t : Terms} {i : Identity} {s s' : Store} {m : Mapped} {a : Account} {later : Instant}

/-- The same terms at another time. -/
def Terms.at_ (t : Terms) (later : Instant) : Terms := { t with now := later }

/-- The identity is linked to the account `a`, which can log in and needs no update. -/
structure UpToDate (t : Terms) (i : Identity) (s : Store) (a : Account) : Prop where
  linked : s.accountByAuthname directoryModule i.authname = .ok (some a)
  active : a.status = .active
  mail : mailWritten t (mailFor t.settings i) a = false
  roles : rolesWritten t a = false

theorem UpToDate.run_map (h : UpToDate t i s a) (later : Instant) :
    (map (t.at_ later) i).run s =
      (.ok ⟨{ a with lastLogin := some later }, false⟩, s.touchLogin a.uid later) := by
  have hupdate : update (t.at_ later) (mailFor (t.at_ later).settings i) a =
      fun row => { row with lastLogin := some later } := by
    have hmail : mailWritten (t.at_ later) (mailFor (t.at_ later).settings i) a = false := h.mail
    have hroles : rolesWritten (t.at_ later) a = false := h.roles
    funext row
    rw [update, hmail, hroles]
    rfl
  rw [run_map_linked h.linked h.active, hupdate]
  rfl

/-! ## After a mapping -/

theorem mailWritten_of_mail (t : Terms) {mail : Option String} (h : a.mail = mail) :
    mailWritten t mail a = false := by
  simp [mailWritten, h]

theorem rolesWritten_of_roles (h : a.roles = t.grants) : rolesWritten t a = false := by
  simp [rolesWritten, h]

/-- An update leaves no mail address to be copied, -/
theorem mailWritten_update (t : Terms) (mail : Option String) (a : Account) :
    mailWritten t mail (update t mail a a) = false := by
  cases hw : mailWritten t mail a with
  | true =>
    have hnew : (update t mail a a).mail = mail := by simp [update, hw]
    exact mailWritten_of_mail t hnew
  | false =>
    have hsame : (update t mail a a).mail = a.mail := by simp [update, hw]
    rw [mailWritten, hsame]
    exact hw

/-- and no roles. -/
theorem rolesWritten_update (t : Terms) (mail : Option String) (a : Account) :
    rolesWritten t (update t mail a a) = false := by
  cases hw : rolesWritten t a with
  | true =>
    have hnew : (update t mail a a).roles = t.grants := by simp [update, hw]
    exact rolesWritten_of_roles hnew
  | false =>
    have hsame : (update t mail a a).roles = a.roles := by simp [update, hw]
    rw [rolesWritten, hsame]
    exact hw

/-- The account that a mapping returns is stored as it is returned. -/
theorem Ending.row? (h : s.WellFormed) (hend : Ending t i s (.ok m) s') :
    s'.row? m.account.uid = some m.account := by
  cases hend with
  | linked a hl hs =>
    obtain ⟨l, -, -, ha, -⟩ := Store.accountByAuthname_eq_some hl
    exact row?_update h ha rfl
  | associated a hlink hl hs =>
    exact row?_update h (Store.accountByName_eq_some hlink.named).1 rfl
  | provisioned hc hn hl => exact row?_newcomer h hn hl t.now

/-- It can be read, if the time that was recorded in it can. -/
theorem Ending.readable (hnow : Time.fourDigitYear t.now = true)
    (hend : Ending t i s (.ok m) s') : Store.readAccount m.account = .ok m.account := by
  cases hend with
  | linked a hl hs =>
    obtain ⟨l, -, haccount, -, -⟩ := Store.accountByAuthname_eq_some hl
    have hread := (Store.readOptional_eq_some_iff.mp haccount).2
    exact Store.readAccount_touched hread rfl rfl hnow
  | associated a hlink hl hs =>
    have hread := (Store.readOptional_eq_some_iff.mp hlink.named).2
    exact Store.readAccount_touched hread rfl rfl hnow
  | provisioned hc hn hl =>
    have hread : Store.readAccount (newcomer t i s) = .ok (newcomer t i s) :=
      Store.readAccount_row (fresh t i) false t.now hnow
    exact Store.readAccount_touched hread rfl rfl hnow

theorem Ending.upToDate (h : s.WellFormed) (hnow : Time.fourDigitYear t.now = true)
    (hend : Ending t i s (.ok m) s') : UpToDate t i s' m.account where
  linked := by
    obtain ⟨l, hl, hu⟩ := hend.link_of_ok
    rw [Store.accountByAuthname_of_link? hl, hu, Store.account_eq, hend.row? h]
    exact Store.readOptional_eq_some_iff.mpr ⟨rfl, hend.readable hnow⟩
  active := by
    cases hend with
    | linked a hl hs => exact hs
    | associated a hlink hl hs => exact hs
    | provisioned hc hn hl => rfl
  mail := by
    cases hend with
    | linked a hl hs => exact mailWritten_update t _ a
    | associated a hlink hl hs => exact mailWritten_update t _ a
    | provisioned hc hn hl => exact mailWritten_of_mail t rfl
  roles := by
    cases hend with
    | linked a hl hs => exact rolesWritten_update t _ a
    | associated a hlink hl hs => exact rolesWritten_update t _ a
    | provisioned hc hn hl => exact rolesWritten_of_roles rfl

/-- What the mapping of an identity in the store `s` comes to, where a mapping on the same terms has
just returned `m`: the same account, not made this time, with a new time of the last login. -/
structure Repeats (t : Terms) (i : Identity) (m : Mapped) (s : Store) (later : Instant) : Prop where
  result : ((map (t.at_ later) i).run s).1 =
    .ok ⟨{ m.account with lastLogin := some later }, false⟩
  accounts : ∃ before after, s.accounts = before ++ m.account :: after ∧
    ((map (t.at_ later) i).run s).2.accounts =
      before ++ { m.account with lastLogin := some later } :: after
  authmaps : ((map (t.at_ later) i).run s).2.authmaps = s.authmaps

/-- Mapping is idempotent: a mapping that follows at once on a mapping repeats it. -/
theorem map_repeats (h : s.WellFormed) (hnow : Time.fourDigitYear t.now = true)
    (hrun : (map t i).run s = (.ok m, s')) (later : Instant) : Repeats t i m s' later := by
  have hend : Ending t i s (.ok m) s' := ending_of_run hrun
  have hagain := (hend.upToDate h hnow).run_map later
  have hwell : s'.WellFormed := hend.writes.wellFormed h
  have hmem : m.account ∈ s'.accounts := List.mem_of_find?_eq_some (hend.row? h)
  obtain ⟨before, after, hbefore, hafter⟩ :=
    hwell.modify_of_mem hmem fun a => { a with lastLogin := some later }
  refine ⟨?_, ⟨before, after, hbefore, ?_⟩, ?_⟩
  · rw [hagain]
  · rw [hagain]
    exact hafter
  · rw [hagain]
    rfl

end DirectoryLogin.Mapping

/-! ## A namesake at the sample site -/

namespace DirectoryLogin

namespace Sample

/-- A store with an account of the person's name in other letters. -/
def namesakeStore : Store :=
  (Store.empty.createAccount ⟨"HPotter", some "old@hogwarts.edu", none, false, ["guest"]⟩ now).2

/-- The person's identity with a mail address. -/
def reachable : Identity :=
  { identity with
    entry := { identity.entry with
      attributes := [("uid", ["hpotter"]), ("mail", ["hp@hogwarts.edu"])] } }

/-- The person is granted a role. -/
def promoting : Mapping.Terms := Login.terms associating now (some ["prefect"])

/-- The namesake's account as it is given to the person. -/
def promoted : Account :=
  ⟨2, "HPotter", some "hp@hogwarts.edu", none, .active, false, ["prefect"], now, some now⟩

end Sample

/-- The first mapping links the account and writes the mail address and the roles, and the second
one, a minute later, finds all of it done. -/
theorem sample_map_repeats :
    Sample.namesakeStore.WellFormed ∧ Time.fourDigitYear Sample.promoting.now = true ∧
      ∃ s, (Mapping.map Sample.promoting Sample.reachable).run Sample.namesakeStore =
          (.ok ⟨Sample.promoted, false⟩, s) ∧
        Mapping.Repeats Sample.promoting Sample.reachable ⟨Sample.promoted, false⟩ s
          ⟨1700000060, 0⟩ := by
  have hwell : Sample.namesakeStore.WellFormed :=
    Store.perform_wellFormed .empty (.createAccount _ Sample.now)
  have hnow : Time.fourDigitYear Sample.promoting.now = true := by decide +kernel
  have hfirst : ((Mapping.map Sample.promoting Sample.reachable).run Sample.namesakeStore).1 =
      .ok ⟨Sample.promoted, false⟩ := by
    decide +kernel
  have hrun := Prod.ext (y := (_, _)) hfirst rfl
  exact ⟨hwell, hnow, _, hrun, Mapping.map_repeats hwell hnow hrun ⟨1700000060, 0⟩⟩

end DirectoryLogin
