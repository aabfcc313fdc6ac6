import DirectoryLogin.Directory.Tree

/-!
# What a tree finds

* `findEntry_eq_some`: an entry that a tree finds under a name is stored in it below a base, and
  one of its login names is that name.
-/

namespace DirectoryLogin.Tree

variable {t : Tree} {username : String} {password : Option String} {e : Entry}

theorem findEntry_eq_some (h : t.findEntry username password = .ok (some e)) :
    ∃ s, t.hits username = [s] ∧ s.entry = e ∧ t.bindAsUser s password = .ok () := by
  unfold findEntry at h
  split at h
  · cases h
  · split at h
    · cases h
    · rename_i s hs
      cases hb : t.bindAsUser s password with
      | error f =>
        rw [hb] at h
        cases h
      | ok u =>
        rw [hb] at h
        cases h
        exact ⟨s, hs, rfl, hb⟩
    · cases h

/-- What a tree finds under a name is stored in it, below a base, and has the login name. -/
theorem mem_of_findEntry (h : t.findEntry username password = .ok (some e)) :
    ∃ s ∈ t.entries, s.entry = e ∧ t.inBase e.dn = true ∧ t.answersTo e username = true := by
  obtain ⟨s, hs, rfl, -⟩ := findEntry_eq_some h
  have hmem : s ∈ t.hits username := hs ▸ List.mem_singleton_self s
  obtain ⟨hstored, hmatch⟩ := List.mem_filter.mp hmem
  rw [Bool.and_eq_true] at hmatch
  exact ⟨s, hstored, rfl, hmatch.1, hmatch.2⟩

end DirectoryLogin.Tree
