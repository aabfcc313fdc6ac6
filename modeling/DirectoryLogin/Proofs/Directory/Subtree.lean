import DirectoryLogin.Proofs.Directory.Tree
import DirectoryLogin.Proofs.Text.LowerCase
import DirectoryLogin.Proofs.Text.Trimming
import Mathlib.Data.List.Basic

/-!
# What lies below a base

A search goes through the entries at or below the bases of a server: those whose name is that of a
base, or ends in a comma and the base. A tree looks at the end of a name only, and so it also takes
in entries whose last components merely end as a base does, such as `cn=a+ou=people,dc=edu` for the
base `ou=people,dc=edu`.

* `atOrBelow_iff`, `endsIn_iff`: the two relations on the letters of the names;
* `Tree.matching`, `Tree.strays`: the entries that a name should lead to, and those that it leads to
  besides; `Tree.length_hits`: together they are all that a tree finds;
* `Tree.staysInside_iff`: a search does what it should unless it finds nothing but a single stray,
  or counts strays among several matches.
-/

namespace DirectoryLogin

open Text (letters SameLetters isBlankText)

variable {base dn : String}

/-! ## Names and bases -/

/-- The name ends as the base does, in any letter case. -/
def EndsIn (base dn : String) : Prop := ∃ above ending, dn = above ++ ending ∧ SameLetters ending base

/-- The name is that of the base or of something below it, in any letter case. -/
def AtOrBelow (base dn : String) : Prop :=
  SameLetters dn base ∨ ∃ above ending, dn = above ++ "," ++ ending ∧ SameLetters ending base

theorem letters_append (a b : String) : letters (a ++ b) = letters a ++ letters b := by
  simp [letters]

theorem exists_of_letters_eq_append {s : String} {as bs : List Char} (h : letters s = as ++ bs) :
    ∃ a b, s = a ++ b ∧ letters a = as ∧ letters b = bs := by
  obtain ⟨cs, ds, hs, rfl, rfl⟩ := List.map_eq_append_iff.mp h
  refine ⟨.ofList cs, .ofList ds, ?_, by simp [letters], by simp [letters]⟩
  rw [← String.ofList_append, ← hs, String.ofList_toList]

theorem endsIn_iff : EndsIn base dn ↔ letters base <:+ letters dn := by
  constructor
  · rintro ⟨above, ending, rfl, hsame⟩
    exact ⟨letters above, by rw [letters_append, hsame]⟩
  · rintro ⟨above, h⟩
    obtain ⟨a, b, hdn, -, hb⟩ := exists_of_letters_eq_append h.symm
    exact ⟨a, b, hdn, hb⟩

/-- No letter has a comma for its small form. -/
theorem eq_comma_of_letters {s : String} (h : letters s = [',']) : s = "," := by
  obtain ⟨c, hs, hc⟩ := List.map_eq_singleton_iff.mp h
  have hcomma : c = ',' := Text.toLower_related (R := fun d c => d = ',' → c = ',') (fun _ => id)
    (by decide) c hc
  rw [← String.toList_inj, hs, hcomma]
  rfl

theorem atOrBelow_iff : AtOrBelow base dn ↔
    letters dn = letters base ∨ ',' :: letters base <:+ letters dn := by
  refine or_congr Iff.rfl ?_
  constructor
  · rintro ⟨above, ending, rfl, hsame⟩
    refine ⟨letters above, ?_⟩
    rw [letters_append, letters_append, hsame, List.append_assoc]
    rfl
  · rintro ⟨above, h⟩
    obtain ⟨a, b, rfl, -, hb⟩ := exists_of_letters_eq_append h.symm
    obtain ⟨comma, ending, rfl, hcomma, hending⟩ :=
      exists_of_letters_eq_append (show letters b = [','] ++ letters base from hb)
    refine ⟨a, ending, ?_, hending⟩
    rw [eq_comma_of_letters hcomma, String.append_assoc]

instance (base dn : String) : Decidable (EndsIn base dn) := decidable_of_iff _ endsIn_iff.symm

instance (base dn : String) : Decidable (AtOrBelow base dn) := decidable_of_iff _ atOrBelow_iff.symm

theorem AtOrBelow.endsIn (h : AtOrBelow base dn) : EndsIn base dn := by
  rcases h with hsame | ⟨above, ending, rfl, hsame⟩
  · exact ⟨"", dn, by simp, hsame⟩
  · exact ⟨above ++ ",", ending, rfl, hsame⟩

namespace Tree

variable {t : Tree} {username : String} {password : Option String} {e : Entry} {s : StoredEntry}

/-! ## Matches and strays -/

/-- The name lies at or below one of the bases, white space around these aside. -/
def Inside (t : Tree) (dn : String) : Prop :=
  ∃ base ∈ t.definition.baseDns, isBlankText base = false ∧ AtOrBelow (Text.trim base) dn

/-- The name ends as one of the bases does, and does not lie below any. -/
def Grazes (t : Tree) (dn : String) : Prop :=
  (∃ base ∈ t.definition.baseDns, isBlankText base = false ∧ EndsIn (Text.trim base) dn) ∧
    ¬ t.Inside dn

/-- A value of the user attribute is the user name, in any letter case. -/
def HasName (t : Tree) (username : String) (e : Entry) : Prop :=
  ∃ value ∈ e.values t.definition.userAttribute, SameLetters value username

instance (t : Tree) (dn : String) : Decidable (t.Inside dn) :=
  inferInstanceAs (Decidable (∃ base ∈ t.definition.baseDns, _ ∧ _))

instance (t : Tree) (dn : String) : Decidable (t.Grazes dn) :=
  inferInstanceAs (Decidable ((∃ base ∈ t.definition.baseDns, _ ∧ _) ∧ _))

instance (t : Tree) (username : String) (e : Entry) : Decidable (t.HasName username e) :=
  inferInstanceAs (Decidable (∃ value ∈ e.values t.definition.userAttribute, _))

/-- The stored entries that a user name should lead to. -/
def matching (t : Tree) (username : String) : List StoredEntry :=
  t.entries.filter fun s => t.Inside s.entry.dn ∧ t.HasName username s.entry

/-- The stored entries of the user name that are found outside of the bases. -/
def strays (t : Tree) (username : String) : List StoredEntry :=
  t.entries.filter fun s => t.Grazes s.entry.dn ∧ t.HasName username s.entry

theorem inBase_iff : t.inBase dn = true ↔ t.Inside dn ∨ t.Grazes dn := by
  have hends : t.inBase dn = true ↔ ∃ base ∈ t.definition.baseDns, isBlankText base = false ∧
      EndsIn (Text.trim base) dn := by
    simp [inBase, Text.endsWith, Text.lowerAscii, endsIn_iff, letters]
  rw [hends]
  constructor
  · intro h
    by_cases hinside : t.Inside dn
    · exact .inl hinside
    · exact .inr ⟨h, hinside⟩
  · rintro (⟨base, hbase, hblank, hbelow⟩ | hgrazes)
    · exact ⟨base, hbase, hblank, hbelow.endsIn⟩
    · exact hgrazes.1

theorem answersTo_iff : t.answersTo e username = true ↔ t.HasName username e := by
  simp [answersTo, HasName, Text.sameAscii_iff]

theorem filter_hits_inside (t : Tree) (username : String) :
    (t.hits username).filter (fun s => t.Inside s.entry.dn) = t.matching username := by
  rw [hits, matching, List.filter_filter]
  refine List.filter_congr fun s _ => ?_
  rw [Bool.eq_iff_iff]
  simp only [Bool.and_eq_true, decide_eq_true_eq, inBase_iff, answersTo_iff]
  tauto

theorem filter_hits_outside (t : Tree) (username : String) :
    (t.hits username).filter (fun s => !decide (t.Inside s.entry.dn)) = t.strays username := by
  rw [hits, strays, List.filter_filter]
  refine List.filter_congr fun s _ => ?_
  have hgrazes : t.Grazes s.entry.dn → ¬ t.Inside s.entry.dn := And.right
  rw [Bool.eq_iff_iff]
  simp only [Bool.and_eq_true, Bool.not_eq_true', decide_eq_true_eq, decide_eq_false_iff_not,
    inBase_iff, answersTo_iff]
  tauto

/-- What a tree finds are the matches and the strays. -/
theorem length_hits (t : Tree) (username : String) :
    (t.hits username).length = (t.matching username).length + (t.strays username).length := by
  rw [← filter_hits_inside, ← filter_hits_outside]
  exact List.length_eq_length_filter_add _

/-- A single entry is found as a match or as a stray. -/
theorem hits_eq_singleton (h : t.hits username = [s]) :
    t.matching username = [s] ∨ t.matching username = [] ∧ t.strays username = [s] := by
  rw [← filter_hits_inside, ← filter_hits_outside, h]
  by_cases hinside : t.Inside s.entry.dn <;> simp [hinside]

/-! ## Searches -/

theorem findEntry_of_hit (ha : t.unavailable = false) (h : t.hits username = [s])
    (hb : t.bindAsUser s password = .ok ()) : t.findEntry username password = .ok (some s.entry) := by
  simp only [findEntry, ha, h, hb, Bool.false_eq_true, if_false]
  rfl

theorem findEntry_of_hits (ha : t.unavailable = false) (h : 2 ≤ (t.hits username).length) :
    t.findEntry username password = .error (.ambiguous (t.hits username).length) := by
  unfold findEntry
  rw [ha]
  split
  · contradiction
  · split
    · rename_i hnone
      simp [hnone] at h
    · rename_i s hone
      simp [hone] at h
    · rfl

/-- The entry can be had with some password: searches are not made on behalf of the user, or the
user has a password. -/
def Opens (t : Tree) (s : StoredEntry) : Prop := t.definition.bindMethod = .user → s.password ≠ ""

theorem exists_bindAsUser_iff : (∃ password, t.bindAsUser s password = .ok ()) ↔ t.Opens s := by
  unfold bindAsUser Opens
  cases hm : t.definition.bindMethod with
  | serviceAccount => simp
  | anonymous => simp
  | user =>
    constructor
    · rintro ⟨password, hb⟩ - hempty
      cases hp : password.filter (!·.isEmpty) with
      | none => simp [hp] at hb
      | some p =>
        have hne : p ≠ "" := by simpa using (Option.filter_eq_some_iff.mp hp).2
        simp [hp, hempty, hne] at hb
    · intro hopens
      have hne : s.password.isEmpty = false := by simpa using hopens rfl
      exact ⟨some s.password, by simp [Option.filter_some, hne]⟩

/-- A search leads to an entry only if that is the one match, and tells how many there are if there
are several. -/
structure StaysInside (t : Tree) (username : String) : Prop where
  found : ∀ password e, t.findEntry username password = .ok (some e) →
    ∃ s, t.matching username = [s] ∧ s.entry = e
  counted : 2 ≤ (t.matching username).length → ∀ password,
    t.findEntry username password = .error (.ambiguous (t.matching username).length)

/-- There is no match, and the one stray can be had. -/
def AdmitsStray (t : Tree) (username : String) : Prop :=
  t.matching username = [] ∧ ∃ s, t.strays username = [s] ∧ t.Opens s

/-- There are several matches, and strays that are counted with them. -/
def CountsStrays (t : Tree) (username : String) : Prop :=
  2 ≤ (t.matching username).length ∧ t.strays username ≠ []

theorem StaysInside.not_admitsStray (h : t.StaysInside username) (ha : t.unavailable = false) :
    ¬ t.AdmitsStray username := by
  rintro ⟨hnone, s, hstray, hopens⟩
  have hlength := t.length_hits username
  rw [hnone, hstray] at hlength
  obtain ⟨x, hx⟩ := List.length_eq_one_iff.mp hlength
  rcases hits_eq_singleton hx with hmatch | ⟨-, hone⟩
  · cases hnone.symm.trans hmatch
  · obtain rfl : s = x := by simpa [hstray] using hone
    obtain ⟨password, hb⟩ := exists_bindAsUser_iff.mpr hopens
    obtain ⟨y, hy, -⟩ := h.found password s.entry (findEntry_of_hit ha hx hb)
    cases hnone.symm.trans hy

theorem StaysInside.not_countsStrays (h : t.StaysInside username) (ha : t.unavailable = false) :
    ¬ t.CountsStrays username := by
  rintro ⟨htwo, hstrays⟩
  have hlength := t.length_hits username
  have hall : 2 ≤ (t.hits username).length := by omega
  have hcounted := h.counted htwo none
  rw [findEntry_of_hits ha hall] at hcounted
  have hsame : (t.hits username).length = (t.matching username).length := by simpa using hcounted
  exact hstrays (List.length_eq_zero_iff.mp (by omega))

/-- The search of an available tree stays inside its bases, unless the name has no match there and
leads to a single stray, or has several matches and strays besides. -/
theorem staysInside_iff (ha : t.unavailable = false) :
    t.StaysInside username ↔ ¬ t.AdmitsStray username ∧ ¬ t.CountsStrays username := by
  constructor
  · exact fun h => ⟨h.not_admitsStray ha, h.not_countsStrays ha⟩
  · rintro ⟨hadmits, hcounts⟩
    constructor
    · intro password e hfound
      obtain ⟨s, hs, rfl, hb⟩ := findEntry_eq_some hfound
      rcases hits_eq_singleton hs with hmatch | ⟨hnone, hstray⟩
      · exact ⟨s, hmatch, rfl⟩
      · exact absurd ⟨hnone, s, hstray, exists_bindAsUser_iff.mp ⟨password, hb⟩⟩ hadmits
    · intro htwo password
      have hstrays : t.strays username = [] := by
        by_contra hsome
        exact hcounts ⟨htwo, hsome⟩
      have hlength := t.length_hits username
      rw [hstrays, List.length_nil, Nat.add_zero] at hlength
      rw [← hlength]
      exact findEntry_of_hits ha (by omega)

end Tree

/-! ## Two sample trees -/

namespace Sample

/-- A person of a server whose only base is the unit `people`. -/
def member (dn username : String) : StoredEntry := ⟨⟨dn, "hogwarts", [("uid", [username])]⟩, "pass"⟩

/-- A server with people of one user name and, if any, strays. -/
def treeWith (strays : List StoredEntry) : Tree where
  definition := .preset "hogwarts" .openLdap "ldap://hogwarts.edu" "OU=people,DC=hogwarts,DC=edu"
  entries := strays ++
    [member "cn=harry,ou=People,dc=hogwarts,dc=edu" "hpotter",
      member "cn=harry,ou=guests,ou=people,dc=hogwarts,dc=edu" "HPotter"]
  unavailable := false

/-- A person in no unit at all, whose last component names a unit besides the person. -/
def strayMember (username : String) : StoredEntry :=
  member "cn=dracom+ou=people,dc=hogwarts,dc=edu" username

end Sample

/-- Two people with one user name and no stray are counted as two. -/
theorem sample_stays_inside :
    (Sample.treeWith []).unavailable = false ∧ (Sample.treeWith []).StaysInside "hpotter" ∧
      ∀ password, (Sample.treeWith []).findEntry "hpotter" password = .error (.ambiguous 2) := by
  have hmatching : ((Sample.treeWith []).matching "hpotter").length = 2 := by decide +kernel
  have hstrays : (Sample.treeWith []).strays "hpotter" = [] := by decide +kernel
  have hstays : (Sample.treeWith []).StaysInside "hpotter" := by
    refine (Tree.staysInside_iff rfl).mpr ⟨?_, fun h => h.2 hstrays⟩
    rintro ⟨hnone, -⟩
    rw [hnone] at hmatching
    cases hmatching
  refine ⟨rfl, hstays, fun password => ?_⟩
  rw [hstays.counted (Nat.le_of_eq hmatching.symm) password, hmatching]

/-- A person of no unit is found below the unit, and counted with the people of the unit. -/
theorem stray_found_inside :
    (¬ (Sample.treeWith [Sample.strayMember "dracom"]).StaysInside "dracom" ∧
      (Sample.treeWith [Sample.strayMember "dracom"]).findEntry "dracom" none =
        .ok (some (Sample.strayMember "dracom").entry)) ∧
    ¬ (Sample.treeWith [Sample.strayMember "hpotter"]).StaysInside "hpotter" ∧
      (Sample.treeWith [Sample.strayMember "hpotter"]).findEntry "hpotter" none =
        .error (.ambiguous 3) := by
  refine ⟨⟨fun h => h.not_admitsStray rfl ?_, ?_⟩, fun h => h.not_countsStrays rfl ?_, ?_⟩
  · exact ⟨by decide +kernel, Sample.strayMember "dracom", by decide +kernel, nofun⟩
  · exact Tree.findEntry_of_hit rfl (by decide +kernel) rfl
  · exact ⟨by decide +kernel, by decide +kernel⟩
  · have hhits : ((Sample.treeWith [Sample.strayMember "hpotter"]).hits "hpotter").length = 3 := by
      decide +kernel
    rw [Tree.findEntry_of_hits rfl (by omega), hhits]

end DirectoryLogin
