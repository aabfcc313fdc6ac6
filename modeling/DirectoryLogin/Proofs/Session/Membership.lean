import DirectoryLogin.Proofs.Session.Lifetime

/-!
# What is in a session table

* `mem_after`: what is in a table after some calls was there before, or one of them started it;
* `mem_after_of_mem`: what is in a table stays there while no call may end it.
-/

namespace DirectoryLogin

namespace SessionTable

variable {t : SessionTable} {h : List Call} {c : Call} {x : Session}

/-- The value of the cookie that the call looks at. -/
def Call.value? : Call → Option String
  | get _ value | remove value => some value
  | create .. | active _ => none

/-- The call may end a session: it clears expired ones away, it takes the id for another one, or its
cookie leads there. -/
def Call.MayEnd (secret : Digest.Bytes) (x : Session) : Call → Prop
  | create now id .. => x.isExpired now = true ∨ x.id = id
  | get _ value | remove value => SessionToken.verify? secret value = some x.id
  | active _ => False

/-- A call that may end a session starts another one, or looks at a cookie that leads there. -/
theorem Call.MayEnd.cases {secret : Digest.Bytes} (h : c.MayEnd secret x) :
    (∃ now id, c.reading? = some now ∧ c.newId? = some id ∧
      (x.isExpired now = true ∨ x.id = id)) ∨
    ∃ value, c.value? = some value ∧ SessionToken.verify? secret value = some x.id := by
  cases c with
  | create now id => exact .inl ⟨now, id, rfl, rfl, h⟩
  | get now value => exact .inr ⟨value, rfl, h⟩
  | remove value => exact .inr ⟨value, rfl, h⟩
  | active now => exact h.elim

theorem mem_remove {value : String} :
    x ∈ (t.remove value).2.sessions ↔
      x ∈ t.sessions ∧ SessionToken.verify? t.secret value ≠ some x.id := by
  unfold SessionTable.remove
  cases SessionToken.verify? t.secret value with
  | none => simp
  | some id => simp [mem_erase, eq_comm]

theorem mem_perform (hx : x ∈ (t.perform c).sessions) :
    x ∈ t.sessions ∨ c.session? t.lifetime = some x := by
  cases c with
  | create now id uid name method =>
    rcases List.mem_append.mp hx with hx | hx
    · exact .inl (mem_clear.mp (mem_erase.mp hx).1).1
    · exact .inr (congrArg some (List.mem_singleton.mp hx).symm)
  | get now value => exact .inl ((get_sublist t now value).subset hx)
  | remove value => exact .inl ((remove_sublist t value).subset hx)
  | active now => exact .inl hx

/-- What is in the table after a history was there before, or a call of the history started it. -/
theorem mem_after (hx : x ∈ (t.after h).sessions) :
    x ∈ t.sessions ∨ ∃ c ∈ h, c.session? t.lifetime = some x := by
  induction h using List.reverseRecOn with
  | nil => exact .inl hx
  | append_singleton h c ih =>
    rw [after_concat] at hx
    rcases mem_perform hx with hx | hc
    · exact (ih hx).imp_right fun ⟨d, hd, hs⟩ => ⟨d, List.mem_append_left _ hd, hs⟩
    · rw [after_lifetime] at hc
      exact .inr ⟨c, by simp, hc⟩

/-- A session stays in the table unless a call may end it. -/
theorem mem_perform_of_mem (hx : x ∈ t.sessions) (hc : ¬ c.MayEnd t.secret x) :
    x ∈ (t.perform c).sessions := by
  cases c with
  | create now id uid name method =>
    obtain ⟨hexp, hid⟩ := not_or.mp hc
    rw [Bool.not_eq_true] at hexp
    exact List.mem_append_left _ (mem_erase.mpr ⟨mem_clear.mpr ⟨hx, hexp⟩, hid⟩)
  | get now value =>
    simp only [perform, SessionTable.get]
    split
    · exact hx
    · rename_i id hverify
      have hid : x.id ≠ id := fun he => hc (hverify.trans (congrArg some he.symm))
      split
      · exact hx
      · split
        · exact mem_erase.mpr ⟨hx, hid⟩
        · exact hx
  | remove value => exact mem_remove.mpr ⟨hx, hc⟩
  | active now => exact hx

theorem mem_after_of_mem (hx : x ∈ t.sessions) (hh : ∀ c ∈ h, ¬ c.MayEnd t.secret x) :
    x ∈ (t.after h).sessions := by
  induction h using List.reverseRecOn with
  | nil => exact hx
  | append_singleton h c ih =>
    rw [after_concat]
    obtain ⟨hbefore, hc⟩ := List.forall_mem_append.mp hh
    refine mem_perform_of_mem (ih hbefore) ?_
    rw [after_secret]
    exact hc c (List.mem_singleton_self c)

end SessionTable

end DirectoryLogin
