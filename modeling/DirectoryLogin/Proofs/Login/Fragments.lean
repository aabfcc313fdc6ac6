import DirectoryLogin.Proofs.Login.Admission
import DirectoryLogin.Proofs.Login.Gate
import DirectoryLogin.Proofs.Text.FinalSigma

/-!
# Fragments of distinguished names

The policy gate looks for fragments in distinguished names, both in lower case. A fragment that was
copied out of a name is found in it unless it exposes a capital sigma: then the fragment by itself
and the same letters within the name can come out differently.

* `Entry.FindsVerbatim`, `Policy.ExcludesVerbatim`, `Policy.AllowsVerbatim`: what the gate promises
  of a fragment that is taken over as it stands;
* `verbatim_iff`: it keeps each of the promises for a fragment just when that exposes no sigma.
-/

namespace DirectoryLogin

open Settings (Authentication)

/-- Every distinguished name that holds the fragment is found to contain it. -/
def Entry.FindsVerbatim (fragment : String) : Prop :=
  ∀ e : Entry, Text.contains e.dn fragment = true → e.dnContains fragment = true

namespace Policy

/-- On the deny list, the fragment keeps out every identity whose name holds it. -/
def ExcludesVerbatim (fragment : String) : Prop :=
  ∀ (c : Authentication) p rs (i : Identity), Text.contains i.entry.dn fragment = true →
    fragment ∈ c.excludeIfTextInDn →
    ∃ f, evaluate c p rs i = .error f ∧ f.kind = .userDisallowed

/-- On the allow list, the fragment lets every entry pass whose name holds it. -/
def AllowsVerbatim (fragment : String) : Prop :=
  ∀ (c : Authentication) (e : Entry), Text.contains e.dn fragment = true →
    fragment ∈ c.allowOnlyIfTextInDn → checkAllowList c e = .ok ()

variable {c : Authentication} {p : Provider} {rs : List Rule} {i : Identity} {fragment : String}

/-- What contains a fragment of the deny list is kept out, be it by that list or by the one that is
looked at before. -/
theorem disallowed_of_dnContains (hm : fragment ∈ c.excludeIfTextInDn)
    (hd : i.entry.dnContains fragment = true) :
    ∃ f, evaluate c p rs i = .error f ∧ f.kind = .userDisallowed := by
  have hdeny : checkDenyList c i.entry = .error (.disallowed .inDenyList) :=
    (checkDenyList_eq_error_iff p rs).mpr (.inDenyList fragment hm hd)
  rw [evaluate_eq, hdeny]
  cases hallow : checkAllowList c i.entry with
  | ok => exact ⟨_, rfl, rfl⟩
  | error f =>
    cases (checkAllowList_eq_error_iff p rs).mp hallow
    exact ⟨_, rfl, rfl⟩

/-- Settings whose only demand is that the name does not contain the fragment. -/
def excluding (fragment : String) : Authentication :=
  { Authentication.default with excludeIfTextInDn := [fragment] }

def allowing (fragment : String) : Authentication :=
  { Authentication.default with allowOnlyIfTextInDn := [fragment] }

theorem evaluate_excluding (h : i.entry.dnContains fragment = false) :
    evaluate (excluding fragment) .none [] i = .ok none := by
  refine evaluate_eq_ok_iff.mpr ⟨Check.forall_iff.mpr ⟨.inl rfl, ?_, nofun, nofun, nofun⟩, rfl⟩
  exact fun other hother => by rwa [List.mem_singleton.mp hother]

theorem dnContains_of_checkAllowList {e : Entry}
    (h : checkAllowList (allowing fragment) e = .ok ()) : e.dnContains fragment = true := by
  unfold checkAllowList at h
  by_contra hn
  simp [allowing, hn] at h

theorem excludesVerbatim_iff : ExcludesVerbatim fragment ↔ Entry.FindsVerbatim fragment := by
  constructor
  · intro hall e he
    by_contra hn
    let i : Identity := ⟨e, "", .preset "" .generic "" ""⟩
    obtain ⟨f, hf, -⟩ := hall (excluding fragment) .none [] i he (List.mem_singleton_self _)
    rw [evaluate_excluding (i := i) (Bool.eq_false_iff.mpr hn)] at hf
    cases hf
  · intro hall c p rs i hi hm
    exact disallowed_of_dnContains hm (hall i.entry hi)

theorem allowsVerbatim_iff : AllowsVerbatim fragment ↔ Entry.FindsVerbatim fragment := by
  constructor
  · intro hall e he
    exact dnContains_of_checkAllowList (hall (allowing fragment) e he (List.mem_singleton_self _))
  · intro hall c e he hm
    unfold checkAllowList
    simp [List.any_eq_true.mpr ⟨fragment, hm, hall e he⟩]

end Policy

theorem Entry.findsVerbatim_iff (fragment : String) :
    FindsVerbatim fragment ↔ ¬ Text.ExposesSigma fragment.toList := by
  rw [← Text.contains_lower_iff]
  exact ⟨fun h s => h ⟨s, "", []⟩, fun h e => h e.dn⟩

/-- A fragment that is copied out of a distinguished name is found there, on the deny list keeps it
out and on the allow list lets it pass, each in all cases just when it exposes no capital sigma. -/
theorem Policy.verbatim_iff (fragment : String) :
    (Entry.FindsVerbatim fragment ↔ ¬ Text.ExposesSigma fragment.toList) ∧
      (ExcludesVerbatim fragment ↔ ¬ Text.ExposesSigma fragment.toList) ∧
      (AllowsVerbatim fragment ↔ ¬ Text.ExposesSigma fragment.toList) := by
  rw [excludesVerbatim_iff, allowsVerbatim_iff]
  exact ⟨Entry.findsVerbatim_iff fragment, Entry.findsVerbatim_iff fragment,
    Entry.findsVerbatim_iff fragment⟩

/-! ## A unit with a capital sigma at the sample site -/

/-- A person of a unit with a capital sigma within its name. -/
def Sample.teacher : Identity :=
  ⟨⟨"cn=snape,ou=ΔΑΣΚΑΛΟΙ,dc=hogwarts,dc=edu", "hogwarts", [("uid", ["snape"])]⟩, "snape",
    Sample.tree.definition⟩

/-- The first letters of the unit are not found in its name, since by themselves they end in a final
sigma. The deny list does not keep the person out, and the allow list does. -/
theorem copied_fragment_missed :
    Text.contains Sample.teacher.entry.dn "ou=ΔΑΣ" = true ∧
      Sample.teacher.entry.dnContains "ou=ΔΑΣ" = false ∧
      Policy.evaluate (Policy.excluding "ou=ΔΑΣ") .none [] Sample.teacher = .ok none ∧
      Policy.checkAllowList (Policy.allowing "ou=ΔΑΣ") Sample.teacher.entry =
        .error (.disallowed .notInAllowList) := by
  have missed : Sample.teacher.entry.dnContains "ou=ΔΑΣ" = false := by decide +kernel
  refine ⟨by decide +kernel, missed, Policy.evaluate_excluding missed, ?_⟩
  simp [Policy.checkAllowList, Policy.allowing, missed]

end DirectoryLogin
