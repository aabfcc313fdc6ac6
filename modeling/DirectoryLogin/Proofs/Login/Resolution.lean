import DirectoryLogin.Login.Resolution

/-!
# What a resolution vouches for

* `Settles`: a server has one entry for a name, and the entry's password is right where one was
  given;
* `ofCredentials_ok`, `ofAsserted_ok`: a resolution that succeeds has found an entry by which some
  candidate settles the name;
* `ofAsserted_questions`: an asserted name leads to no question about a password.
-/

namespace DirectoryLogin

open Directory (Question)
open Settings (Authentication)

/-- The server finds the entry under the name, and the password, if there is one, belongs to it. -/
structure Directory.Settles (d : Directory) (username : String) (password : Option String)
    (e : Entry) : Prop where
  found : d.findEntry username password = .ok (some e)
  verified : ∀ p, password = some p → d.verifyPassword e p = .ok true

namespace Resolution

variable {r : Registry} {c : Authentication} {d : Directory} {ds : List Directory}
  {username : String} {password : Option String} {sb : Setbacks} {i : Identity}
  {qs : List Question}

theorem askServer_settled (h : askServer d username password sb = (.settled i, qs)) :
    ∃ e, i = ⟨e, username, d.definition⟩ ∧ d.Settles username password e := by
  unfold askServer at h
  split at h
  · cases h
  · cases h
  · cases h
  · cases h
  · rename_i e hf
    cases password with
    | none =>
      cases h
      exact ⟨e, rfl, hf, fun p hp => nomatch hp⟩
    | some p =>
      simp only at h
      split at h
      · rename_i hv
        cases h
        refine ⟨e, rfl, hf, fun q hq => ?_⟩
        obtain rfl := Option.some.inj hq
        exact hv
      · cases h
      · cases h

theorem walk_ok (h : (walk username password sb ds).result = .ok i) :
    ∃ d ∈ ds, ∃ e, i = ⟨e, username, d.definition⟩ ∧ d.Settles username password e := by
  induction ds generalizing sb with
  | nil => cases h
  | cons d ds ih =>
    unfold walk at h
    split at h
    · rename_i j qs hd
      cases h
      obtain ⟨e, he⟩ := askServer_settled hd
      exact ⟨d, List.mem_cons_self, e, he⟩
    · obtain ⟨d', hd', he⟩ := ih h
      exact ⟨d', List.mem_cons_of_mem _ hd', he⟩

theorem ofName_ok (h : (ofName r c username password).result = .ok i) :
    ∃ d ∈ r.candidates c, ∃ e, i = ⟨e, username, d.definition⟩ ∧
      d.Settles username password e := by
  unfold ofName at h
  split at h
  · cases h
  · exact walk_ok h

theorem ofCredentials_ok {p : String} (h : (ofCredentials r c username p).result = .ok i) :
    ∃ d ∈ r.candidates c, ∃ e, i = ⟨e, Text.trim username, d.definition⟩ ∧
      d.Settles (Text.trim username) (some p) e := by
  unfold ofCredentials at h
  dsimp only at h
  split at h
  · cases h
  · exact ofName_ok h

theorem ofAsserted_ok (h : (ofAsserted r c username).result = .ok i) :
    ∃ d ∈ r.candidates c, ∃ e, i = ⟨e, Text.trim username, d.definition⟩ ∧
      d.Settles (Text.trim username) none e := by
  unfold ofAsserted at h
  dsimp only at h
  split at h
  · cases h
  · exact ofName_ok h

/-! ## Without a password -/

theorem askServer_questions (d : Directory) (username : String) (sb : Setbacks) :
    (askServer d username none sb).2 = [.findEntry d.sid username none] := by
  unfold askServer
  split <;> rfl

theorem walk_questions (username : String) (sb : Setbacks) (ds : List Directory) :
    ∀ q ∈ (walk username none sb ds).questions, q.isLookup = true := by
  induction ds generalizing sb with
  | nil => simp [walk]
  | cons d ds ih =>
    have hd : ∀ q ∈ (askServer d username none sb).2, q.isLookup = true := by
      rw [askServer_questions]
      simp [Question.isLookup]
    unfold walk
    split
    · rename_i j qs hq
      rw [hq] at hd
      exact hd
    · rename_i sb' qs hq
      rw [hq] at hd
      intro q hm
      rcases List.mem_append.mp hm with hm | hm
      · exact hd q hm
      · exact ih sb' q hm

/-- An asserted name is looked up, and nothing else is asked. -/
theorem ofAsserted_questions (r : Registry) (c : Authentication) (username : String) :
    ∀ q ∈ (ofAsserted r c username).questions, q.isLookup = true := by
  unfold ofAsserted
  dsimp only
  split
  · simp
  · unfold ofName
    split
    · simp
    · exact walk_questions _ _ _

end Resolution

end DirectoryLogin
