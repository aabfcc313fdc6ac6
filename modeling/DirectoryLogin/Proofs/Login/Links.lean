import DirectoryLogin.Proofs.Login.History

/-!
# Links between directory identities and accounts

A link says for good which account belongs to a directory identity. Renamed accounts, names that
collide and new settings do not change that.

* `LinksPermanent`: links stay, they are one-to-one, and logins follow them;
* `links_permanent`: this holds of every history of a service that starts without accounts.
-/

namespace DirectoryLogin.Service

open Settings (Authentication)

variable {c : Authentication} {ts : List Turn} {e e' : Event} {o o' : Outcome}

/-- A link that is there after an event is there after the whole history. -/
theorem mem_after_of_event (h : e ∈ (start c).events ts) {l : Authmap}
    (hl : l ∈ e.after.store.authmaps) : l ∈ ((start c).after ts).store.authmaps := by
  obtain ⟨-, later, -, -, ha⟩ := mem_events h
  rw [ha]
  exact (after_keeps_authmaps e.after later).subset hl

/-- Two logins through a directory reach one account just when their identities have one
authname. -/
theorem outcome_uid_eq_iff (h : e ∈ (start c).events ts) (h' : e' ∈ (start c).events ts)
    (ho : e.outcome? = some o) (ho' : e'.outcome? = some o') (hm : o.method ≠ .localPassword)
    (hm' : o'.method ≠ .localPassword) :
    ∃ i i', e.identity? = some i ∧ e'.identity? = some i' ∧
      (o.account.uid = o'.account.uid ↔ i.authname = i'.authname) := by
  obtain ⟨i, hi, l, hl, -, hname, hu⟩ := outcome_linked ho hm
  obtain ⟨i', hi', l', hl', -, hname', hu'⟩ := outcome_linked ho' hm'
  -- Both links are still there at the end, where no two links share an account or an authname.
  have hend := after_wellLinked c ts
  have hlast := mem_after_of_event h hl
  have hlast' := mem_after_of_event h' hl'
  refine ⟨i, i', hi, hi', ?_⟩
  rw [← hu, ← hu', ← hname, ← hname']
  constructor
  · intro huid
    rw [hend.eq_of_uid hlast hlast' huid]
  · intro hauth
    rw [hend.eq_of_authname hlast hlast' hauth]

/-- Links are one-to-one and stay, and logins follow them. -/
structure LinksPermanent (c : Authentication) (ts : List Turn) : Prop where
  /-- No account has two links. -/
  perAccount : ((start c).after ts).store.authmaps.Pairwise fun m m' =>
    m.module = directoryModule → m'.module = directoryModule → m.uid ≠ m'.uid
  /-- No authname has two links. -/
  perAuthname : ((start c).after ts).store.authmaps.Pairwise fun m m' =>
    m.module = directoryModule → m'.module = directoryModule → m.authname ≠ m'.authname
  /-- Whatever comes later, the links stay as they are. -/
  kept : ∀ later,
    ((start c).after ts).store.authmaps <+: ((start c).after (ts ++ later)).store.authmaps
  /-- Two logins through a directory, wherever they stand in the history, reach one account just
  when their identities have one authname. -/
  followed : ∀ e ∈ (start c).events ts, ∀ e' ∈ (start c).events ts, ∀ o o',
    e.outcome? = some o → e'.outcome? = some o' →
    o.method ≠ .localPassword → o'.method ≠ .localPassword →
    ∃ i i', e.identity? = some i ∧ e'.identity? = some i' ∧
      (o.account.uid = o'.account.uid ↔ i.authname = i'.authname)

/-- Every history keeps links permanent and one-to-one. -/
theorem links_permanent (c : Authentication) (ts : List Turn) : LinksPermanent c ts where
  perAccount := (after_wellLinked c ts).single.imp fun hne _ _ => hne
  perAuthname :=
    (after_wellLinked c ts).wellFormed.keys.imp fun hne hm hm' => hne (hm.trans hm'.symm)
  kept := by
    intro later
    rw [after_append]
    exact after_keeps_authmaps _ later
  followed := by
    intro e h e' h' o o' ho ho' hm hm'
    exact outcome_uid_eq_iff h h' ho ho' hm hm'

end DirectoryLogin.Service
