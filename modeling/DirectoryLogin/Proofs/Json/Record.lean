import DirectoryLogin.Json.Record
import Mathlib.Data.List.Forall2
import Mathlib.Data.List.Nodup

/-!
# Records that find their members

`Finds r d ms a`: from an object that has just the members `ms`, one for each field, the record `r`
reads `a`. The relation is put together as records are, a field at a time.
-/

namespace DirectoryLogin.Json

variable {α β : Type} {d : Dialect}

namespace Reads

/-! ## Single values -/

theorem string_string (s : String) : string d (.string s) = .ok s := rfl

theorem bool_bool (b : Bool) : bool d (.bool b) = .ok b := rfl

theorem list_map {item : Reads α} {write : α → Json} (h : ∀ a, item d (write a) = .ok a)
    (as : List α) : list item d (.array (as.map write)) = .ok as := by
  simp only [list]
  induction as with
  | nil => rfl
  | cons a as ih =>
    rw [List.map_cons, List.mapM_cons, h, ih]
    rfl

theorem list_strings (values : List String) : list string d (.strings values) = .ok values :=
  list_map string_string values

theorem option_ofOption (value : Option String) :
    option string d (.ofOption value) = .ok value := by
  cases value <;> rfl

/-- Every member of a choice stands in the list under its name. -/
def Spells (names : List (String × α)) (name : α → String) : Prop :=
  ∀ a, names.find? (·.1 == name a) = some (name a, a)

theorem choice_name {names : List (String × α)} {name : α → String} (h : Spells names name)
    (a : α) : choice names d (.string (name a)) = .ok a := by
  simp only [choice, h a]

end Reads

/-! ## Records -/

namespace Record

/-- The field takes the member. -/
structure Takes (d : Dialect) (f : Field) (m : String × Json) : Prop where
  name : f.name = m.1
  aliases : f.aliases = []
  check : f.check d m.2 = .ok ()

structure Finds (r : Record α) (d : Dialect) (ms : List (String × Json)) (a : α) : Prop where
  takes : List.Forall₂ (Takes d) r.fields ms
  build : ∀ values : List (String × Json),
    (∀ m ∈ ms, values.find? (·.1 == m.1) = some m) → r.build d false values = .ok a

namespace Finds

theorem field (name : String) {item : Reads α} {v : Json} {a : α} (h : item d v = .ok a)
    (absent : α) : Finds (Record.field name item absent) d [(name, v)] a where
  takes := .cons ⟨rfl, rfl, by simp only [h]; rfl⟩ .nil
  build values hv := by
    simp only [Record.field, fieldNamed, hv (name, v) (by simp), h]

theorem map {r : Record α} {ms : List (String × Json)} {a : α} (h : r.Finds d ms a) (f : α → β) :
    Finds (f <$> r) d ms (f a) where
  takes := h.takes
  build values hv := congrArg (·.map f) (h.build values hv)

theorem seq {r : Record (α → β)} {s : Record α} {ms ms' : List (String × Json)} {f : α → β} {a : α}
    (hr : r.Finds d ms f) (hs : s.Finds d ms' a) : Finds (r <*> s) d (ms ++ ms') (f a) where
  takes := List.rel_append hr.takes hs.takes
  build values hv := by
    have first := hr.build values fun m hm => hv m (List.mem_append_left _ hm)
    have second := hs.build values fun m hm => hv m (List.mem_append_right _ hm)
    calc (r <*> s).build d false values
        = (r.build d false values >>= fun g => s.build d false values >>= fun b => .ok (g b)) := rfl
      _ = .ok (f a) := by rw [first, second]; rfl

end Finds

/-- The field of a member's name is the one that takes it. -/
theorem find_takes {fields : List Field} {ms : List (String × Json)}
    (h : List.Forall₂ (Takes d) fields ms) (unique : (ms.map (·.1)).Nodup) :
    ∀ m ∈ ms, ∃ f, fields.find? (fun f => f.name == m.1 || f.aliases.contains m.1) = some f ∧
      Takes d f m := by
  induction h with
  | nil => simp
  | @cons f m fields ms hf _ ih =>
    rw [List.map_cons, List.nodup_cons] at unique
    rintro n (_ | ⟨_, hn⟩)
    · exact ⟨f, by simp [hf.name], hf⟩
    · obtain ⟨g, found, hg⟩ := ih unique.2 n hn
      have other : m.1 ≠ n.1 := fun same => unique.1 (same ▸ List.mem_map_of_mem hn)
      refine ⟨g, ?_, hg⟩
      rw [List.find?_cons_of_neg (by simp [hf.name, hf.aliases, other]), found]

/-- A member is found by its name. -/
theorem find_member {ms : List (String × Json)} (unique : (ms.map (·.1)).Nodup)
    {m : String × Json} (hm : m ∈ ms) : ms.find? (·.1 == m.1) = some m := by
  obtain ⟨n, found⟩ : ∃ n, ms.find? (·.1 == m.1) = some n :=
    Option.isSome_iff_exists.mp (List.find?_isSome.mpr ⟨m, hm, by simp⟩)
  have same : n.1 = m.1 := by simpa using List.find?_some found
  rw [found, List.inj_on_of_nodup_map unique (List.mem_of_find?_eq_some found) hm same]

/-- Members of different names that fields take are gathered as they stand. -/
theorem gather_eq_append {fields : List Field} {seen ms : List (String × Json)}
    (unique : ((seen ++ ms).map (·.1)).Nodup)
    (h : ∀ m ∈ ms, ∃ f, fields.find? (fun f => f.name == m.1 || f.aliases.contains m.1) = some f ∧
      Takes d f m) :
    gather fields d seen ms = .ok (seen ++ ms) := by
  induction ms generalizing seen with
  | nil => simp [gather]
  | cons m ms ih =>
    obtain ⟨f, found, hf⟩ := h m (by simp)
    have fresh : seen.any (·.1 == m.1) = false := by
      rw [List.map_append, List.nodup_append] at unique
      rw [List.any_eq_false]
      intro n hn same
      exact unique.2.2 n.1 (List.mem_map_of_mem hn) m.1 (by simp) (beq_iff_eq.mp same)
    have rest : gather fields d (seen ++ [m]) ms = .ok (seen ++ [m] ++ ms) :=
      ih (by simpa using unique) fun n hn => h n (List.mem_cons_of_mem m hn)
    calc gather fields d seen (m :: ms)
        = gather fields d (seen ++ [m]) ms := by
          simp only [gather, found, hf.name, fresh, hf.check, bind, Except.bind, Bool.false_eq_true,
            if_false]
      _ = .ok (seen ++ m :: ms) := by rw [rest, List.append_assoc, List.singleton_append]

theorem names_of_takes {fields : List Field} {ms : List (String × Json)}
    (h : List.Forall₂ (Takes d) fields ms) : fields.map (·.name) = ms.map (·.1) := by
  induction h with
  | nil => rfl
  | cons hf _ ih => rw [List.map_cons, List.map_cons, hf.name, ih]

/-- A record with fields of different names reads the object that was put together for it. -/
theorem Finds.reads {r : Record α} {ms : List (String × Json)} {a : α} (h : r.Finds d ms a)
    (different : (r.fields.map (·.name)).Nodup) : r.reads d (.object ms) = .ok a := by
  have unique : (ms.map (·.1)).Nodup := names_of_takes h.takes ▸ different
  have gathered : gather r.fields d [] ms = .ok ms :=
    gather_eq_append unique (find_takes h.takes unique)
  have built : r.build d false ms = .ok a := h.build ms fun _ => find_member unique
  simp only [Record.reads, gathered]
  exact built

end Record

end DirectoryLogin.Json
