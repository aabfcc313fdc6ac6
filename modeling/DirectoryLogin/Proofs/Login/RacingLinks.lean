import DirectoryLogin.Proofs.Login.FirstLogins

/-!
# Racing links

A mapping looks whether an account is linked before it links it, and the link is a call of its own.
Between the two another mapping can have done the same under another authname, which the store does
not refuse. So an account that two identities may be linked to can get two links.

* `SingleLinked`: no account has two links;
* `KeepsLinks`, `robust_keepsLinks`: where only one authname may be linked to each account, every
  single write keeps it so;
* `run_crossing`: else two mappings in turns link the account twice;
* `singleLinked_iff`: both together.
-/

namespace DirectoryLogin

open Settings (Authentication)
open Store (Script Grows)
open Time (Instant)

/-- No account has two links to directory identities. -/
def Store.SingleLinked (s : Store) : Prop :=
  s.authmaps.Pairwise fun m m' =>
    m.module = directoryModule → m'.module = directoryModule → m.uid ≠ m'.uid

instance (s : Store) : Decidable s.SingleLinked :=
  inferInstanceAs (Decidable (List.Pairwise _ s.authmaps))

namespace Mapping

open Store (SingleLinked)

variable {t : Terms} {i : Identity} {s s₀ : Store} {a : Account} {ι : Type}
  {terms : ι → Terms} {identities : ι → Identity}

/-! ## One authname for each account -/

/-- What a race keeps that starts from `s₀`: accounts without a link are as they were there, and a
new link belongs to a new account or to one that could be linked to the authname there. -/
structure KeepsLinks (s₀ : Store) (terms : ι → Terms) (identities : ι → Identity) (s : Store) :
    Prop where
  wellFormed : s.WellFormed
  grows : Grows s₀ s
  single : SingleLinked s
  unlinked : ∀ a ∈ s.accounts, s.authmap a.uid directoryModule = none → a ∈ s₀.accounts
  origin : ∀ m ∈ s.authmaps, m.module = directoryModule →
    m ∈ s₀.authmaps ∨ (∀ a ∈ s₀.accounts, a.uid ≠ m.uid) ∨
      ∃ k a, Linkable (terms k) (identities k) s₀ a ∧ a.uid = m.uid ∧
        m.authname = (identities k).authname

theorem KeepsLinks.refl (h : s₀.WellFormed) (hs : SingleLinked s₀) :
    KeepsLinks s₀ terms identities s₀ :=
  ⟨h, .refl s₀, hs, fun _ ha _ => ha, fun _ hm _ => .inl hm⟩

/-- What a mapping has seen of an account without a link was so at the start, however old it is. -/
theorem linkable_of_seen (h₀ : s₀.WellFormed) (h : Seen t i (KeepsLinks s₀ terms identities) s a) :
    Linkable t i s₀ a := by
  obtain ⟨s₁, h₁, -, hl⟩ := h.unlinked
  obtain ⟨s₂, s₃, h₂, h₃, h₂₃, -, hn, hfree⟩ := h.named
  obtain ⟨hmem, hname⟩ := Store.accountByName_eq_some hn
  have hread := (Store.readOptional_eq_some_iff.mp hn).2
  exact {
    unlinked := Store.accountByAuthname_of_link?_none
      (h₁.grows.link?_eq_none (h₁.wellFormed.link?_of_unlinked hl))
    named := h₀.accountByName_of_mem (h₂.unlinked a hmem (h₂₃.authmap_eq_none hfree)) hread hname
    open_ := h.open_
    free := h₃.grows.authmap_eq_none hfree
    allowed := h.allowed }

/-- The account of a link has a link. -/
theorem authmap_ne_none {m : Authmap} (hm : m ∈ s.authmaps) (hmodule : m.module = directoryModule) :
    s.authmap m.uid directoryModule ≠ none :=
  fun hnone => Store.authmap_eq_none hnone m hm rfl hmodule

/-- Each write of a mapping keeps the links single, if no other authname may be linked to an account
that its own may be linked to. -/
theorem robust_keepsLinks (h₀ : s₀.WellFormed)
    (hone : ∀ j k a, Linkable (terms j) (identities j) s₀ a →
      Linkable (terms k) (identities k) s₀ a → (identities j).authname = (identities k).authname)
    (k : ι) :
    Robust (terms k) (identities k) False (KeepsLinks s₀ terms identities) where
  updated {s m change} h hm hmodule hlight := {
    wellFormed := h.wellFormed.modify m.uid hlight.uid hlight.name
    grows := ⟨h.grows.authmaps, (Store.map_uid_modify s m.uid hlight.uid) ▸ h.grows.uids⟩
    single := h.single
    unlinked := by
      intro b hb hfree
      obtain ⟨a, ha, rfl⟩ := Store.mem_modify.mp hb
      by_cases hu : a.uid = m.uid
      · simp only [hu, beq_self_eq_true, ↓reduceIte, hlight.uid] at hfree
        exact absurd hfree (authmap_ne_none (s := s) hm hmodule)
      · simp only [beq_iff_eq, hu, ↓reduceIte] at hfree ⊢
        exact h.unlinked a ha hfree
    origin := h.origin }
  linked {s a} h hseen hfree hu := by
    have hlinkable := linkable_of_seen h₀ hseen
    have hstored := (Store.accountByName_eq_some hlinkable.named).1
    have hgrows : Grows s (withLink s (identities k) a) :=
      ⟨List.prefix_append _ _, fun _ hm => hm⟩
    refine ⟨h.wellFormed.addAuthmap hfree hu, h.grows.trans hgrows, ?_, fun b hb hb' =>
      h.unlinked b hb (hgrows.authmap_eq_none hb'), ?_⟩
    · refine Store.pairwise_concat h.single fun m hm hmodule _ huid => ?_
      have huid : m.uid = a.uid := huid
      rcases h.origin m hm hmodule with hold | hnew | ⟨j, b, hb, hbu, hname⟩
      · exact authmap_ne_none hold hmodule (huid ▸ hlinkable.free)
      · exact hnew a hstored huid.symm
      · obtain rfl := h₀.eq_of_uid (Store.accountByName_eq_some hb.named).1 hstored
          (hbu.trans huid)
        exact Store.link?_eq_none_iff.mp hfree m hm hmodule
          (hname.trans (hone j k b hb hlinkable))
    · exact Store.forall_mem_concat h.origin fun _ => .inr (.inr ⟨k, a, hlinkable, rfl, rfl⟩)
  provisioned {s} h hn hfree := by
    have hgrows : Grows s (withNewcomer (terms k) (identities k) s) :=
      ⟨List.prefix_append _ _, by
        show _ ⊆ (s.accounts ++ _).map (·.uid)
        rw [List.map_append]
        exact List.subset_append_left _ _⟩
    refine ⟨h.wellFormed.addLinked rfl hn hfree, h.grows.trans hgrows, ?_, fun b hb hb' => ?_, ?_⟩
    · exact Store.pairwise_concat h.single fun m hm _ _ => h.wellFormed.next_unlinked m hm
    · rcases List.mem_append.mp hb with hb | hb
      · exact h.unlinked b hb (hgrows.authmap_eq_none hb')
      · rw [List.mem_singleton.mp hb] at hb'
        exact absurd hb' (authmap_ne_none (s := withNewcomer (terms k) (identities k) s)
          (List.mem_append_right _ (List.mem_singleton_self _)) rfl)
    · refine Store.forall_mem_concat h.origin fun _ => .inr (.inl fun b hb hbu => ?_)
      obtain ⟨b', hb', hu⟩ := h.grows.uid_mem hb
      have hle := h.wellFormed.uid_le b' hb'
      have hnew : b.uid = s.lastUid + 1 := hbu
      omega
  readable h := h.elim
  clock h := h.elim

/-! ## Two authnames for one account -/

/-- What is left of a mapping that has looked and is about to link an account. -/
def linking (t : Terms) (i : Identity) (a : Account) : Script Failure Mapped :=
  (ask (.createAuthmap a.uid directoryModule i.authname) >>= fun _ =>
    refresh t (mailFor t.settings i) a) >>= fun a => pure ⟨a, false⟩

theorem step_ask {α : Type} {s' : Store} {c : Store.Call} {r : c.Reply}
    (h : s.perform c = (.ok r, s')) (f : c.Reply → Script Failure α) :
    (ask c >>= f).step s = (f r, s') :=
  Script.step_ask_bind h f

/-- The three looks before a link. -/
theorem map_steps (h : Linkable t i s a) : (map t i).steps 3 s = (linking t i a, s) := by
  have hunlinked : s.perform (.accountByAuthname directoryModule i.authname) = (.ok none, s) := by
    rw [Store.perform, h.unlinked]
  have hnamed : s.perform (.accountByName i.accountName) = (.ok (some a), s) := by
    rw [Store.perform, h.named]
  have hfree : s.perform (.authmap a.uid directoryModule) = (.ok none, s) := by
    rw [Store.perform, h.free]
  have hassociate : (associate t i.authname (mailFor t.settings i) a).step s =
      (ask (.createAuthmap a.uid directoryModule i.authname) >>= fun _ =>
        refresh t (mailFor t.settings i) a, s) := by
    simp only [associate, h.open_, Bool.false_eq_true, ↓reduceIte]
    rw [step_ask hfree]
    simp only [h.allowed, reduceCtorEq, ↓reduceIte]
  have hasks : (associate t i.authname (mailFor t.settings i) a).result? = none := by
    simp only [associate, h.open_, Bool.false_eq_true, ↓reduceIte]
    rfl
  rw [Script.steps, map, step_ask hunlinked, Script.steps, step_ask hnamed, Script.steps,
    Script.step_bind hasks, hassociate]
  rfl

theorem linking_step (hfree : s.link? directoryModule i.authname = none)
    (hu : ∃ b ∈ s.accounts, b.uid = a.uid) : ((linking t i a).step s).2 = withLink s i a :=
  congrArg Prod.snd (Store.createAuthmap_ok hfree hu)

variable [DecidableEq ι]

theorem run_looks {r : Store.Race ι Failure Mapped} {k : ι} (hr : r.scripts k = map t i)
    (h : Linkable t i r.store a) :
    r.run (List.replicate 3 k) = ⟨r.store, Function.update r.scripts k (linking t i a)⟩ := by
  refine Store.Race.run_replicate ?_
  rw [hr]
  exact map_steps h

/-- Two mappings look before either links the account. -/
def crossing (j k : ι) : List ι := List.replicate 3 j ++ List.replicate 3 k ++ [j, k]

theorem run_crossing (h : s.WellFormed) {j k : ι}
    (hj : Linkable (terms j) (identities j) s a) (hk : Linkable (terms k) (identities k) s a)
    (hne : (identities j).authname ≠ (identities k).authname) :
    ((race s terms identities).run (crossing j k)).store =
      withLink (withLink s (identities j) a) (identities k) a := by
  have hkj : k ≠ j := fun he => hne (by rw [he])
  let looked : ι → Script Failure Mapped :=
    Function.update (race s terms identities).scripts j (linking (terms j) (identities j) a)
  have hlook : (race s terms identities).run (List.replicate 3 j) = ⟨s, looked⟩ :=
    run_looks rfl hj
  have hlook' : Store.Race.run ⟨s, looked⟩ (List.replicate 3 k) =
      ⟨s, Function.update looked k (linking (terms k) (identities k) a)⟩ :=
    run_looks (Function.update_of_ne hkj _ _) hk
  have hstored : ∃ b ∈ s.accounts, b.uid = a.uid :=
    ⟨a, (Store.accountByName_eq_some hj.named).1, rfl⟩
  have hfree := Store.link?_eq_none_iff.mp (h.link?_of_unlinked hk.unlinked)
  -- the link of the one is not the link that the store would refuse to the other
  have hfree' : (withLink s (identities j) a).link? directoryModule (identities k).authname =
      none :=
    Store.link?_eq_none_iff.mpr (Store.forall_mem_concat hfree fun _ => hne)
  rw [crossing, Store.Race.run_append, Store.Race.run_append, hlook, hlook']
  simp only [looked, Store.Race.run, List.foldl_cons, List.foldl_nil, Store.Race.step,
    Function.update_self, Function.update_of_ne hkj, Function.update_of_ne hkj.symm]
  rw [linking_step (h.link?_of_unlinked hj.unlinked) hstored, linking_step hfree' hstored]

theorem not_singleLinked_twice (s : Store) (i j : Identity) (a : Account) :
    ¬ SingleLinked (withLink (withLink s i a) j a) := by
  intro hs
  have hlast := (List.pairwise_append.mp hs).2.2 _
    (List.mem_append_right _ (List.mem_singleton_self _)) _ (List.mem_singleton_self _)
  exact hlast rfl rfl rfl

/-- No account ever gets two links, exactly if no two of the mappings may link one account under
different authnames. -/
theorem singleLinked_iff (h : s.WellFormed) (hs : SingleLinked s) :
    (∀ schedule, SingleLinked ((race s terms identities).run schedule).store) ↔
      ∀ j k a, Linkable (terms j) (identities j) s a → Linkable (terms k) (identities k) s a →
        (identities j).authname = (identities k).authname := by
  constructor
  · intro hall j k a hj hk
    by_contra hne
    have hcrossed := hall (crossing j k)
    rw [run_crossing h hj hk hne] at hcrossed
    exact not_singleLinked_twice s _ _ a hcrossed
  · intro hone schedule
    exact (race_upheld (robust_keepsLinks h hone) (.refl h hs) schedule).holds.single

end Mapping

/-! ## Two identities of one name at the sample site -/

namespace Sample

/-- A store with an account of the person's name. -/
def openStore : Store := (Store.empty.createAccount ⟨"hpotter", none, none, false, []⟩ now).2

/-- An identity of the person's name with an id of its own. -/
def identityWith (id : String) : Identity :=
  ⟨⟨"cn=hpotter,ou=people,dc=hogwarts,dc=edu", "hogwarts",
    [("uid", ["hpotter"]), ("entryUUID", [id])]⟩, "hpotter", tree.definition⟩

/-- Logins in the person's name at once, where accounts may be linked because of their names. -/
def racingWith (id : Bool → String) : Store.Race Bool Failure Mapped :=
  Mapping.race openStore (fun _ => ⟨associating, false, [], now⟩) fun k => identityWith (id k)

end Sample

theorem sample_open_wellFormed : Sample.openStore.WellFormed :=
  Store.perform_wellFormed .empty
    (.createAccount ⟨"hpotter", none, none, false, []⟩ Sample.now)

/-- However one identity logs in, the account gets one link. -/
theorem sample_one_identity :
    Sample.openStore.WellFormed ∧ Sample.openStore.SingleLinked ∧
      ∀ schedule, ((Sample.racingWith fun _ => "id-a").run schedule).store.SingleLinked := by
  have hsingle : Sample.openStore.SingleLinked := by decide
  refine ⟨sample_open_wellFormed, hsingle, ?_⟩
  exact (Mapping.singleLinked_iff sample_open_wellFormed hsingle).mpr fun _ _ _ _ _ => rfl

/-- One identity has looked when the other one is linked, and then it is linked, too. -/
theorem racing_identities_share_account :
    Sample.openStore.WellFormed ∧ Sample.openStore.SingleLinked ∧
      ((Sample.racingWith fun k => if k then "id-a" else "id-b").run
        (List.replicate 3 true ++ List.replicate 7 false ++ [true])).store.authmaps =
          [⟨1, 2, directoryModule, "id-b"⟩, ⟨2, 2, directoryModule, "id-a"⟩] ∧
      ¬ ∀ schedule, ((Sample.racingWith fun k => if k then "id-a" else "id-b").run
        schedule).store.SingleLinked := by
  refine ⟨sample_open_wellFormed, by decide, by decide +kernel, fun hall => ?_⟩
  have hcrossed := hall (List.replicate 3 true ++ List.replicate 7 false ++ [true])
  revert hcrossed
  decide +kernel

end DirectoryLogin
