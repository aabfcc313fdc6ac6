import DirectoryLogin.Http.Metrics
import Mathlib.Algebra.Ring.Nat
import Mathlib.Data.List.Nodup

/-!
# Values and totals of metrics

* `value_set`, `value_bump`: what becomes of the value of every series;
* `total`, `total_bump`: all series of one name together, as long as each has one value.
-/

namespace DirectoryLogin.Http.Metrics

variable {m : Metrics} {s : Series}

/-- No series has two values. -/
def Distinct (m : Metrics) : Prop := (m.values.map (·.1)).Nodup

/-- The values of all series of one name together. -/
def total (m : Metrics) (name : String) : Nat :=
  ((m.values.filter (·.1.name == name)).map (·.2)).sum

/-! ## Values -/

@[simp]
theorem value_set (m : Metrics) (s : Series) (n : Nat) (t : Series) :
    (m.set s n).value t = if t = s then n else m.value t := by
  unfold value set
  by_cases ht : t = s
  · simp [ht]
  · have hfind : (m.values.filter (·.1 != s)).find? (·.1 == t) = m.values.find? (·.1 == t) := by
      rw [List.find?_filter]
      refine congrArg (m.values.find? ·) (funext fun x => ?_)
      by_cases hx : x.1 = t
      · simp [hx, ht]
      · simp [hx]
    rw [List.find?_cons_of_neg (by simpa using Ne.symm ht), hfind, if_neg ht]

@[simp]
theorem value_bump (m : Metrics) (s t : Series) :
    (m.bump s).value t = m.value t + if t = s then 1 else 0 := by
  rw [bump, value_set]
  by_cases ht : t = s
  · simp [ht]
  · simp [ht]

/-! ## Totals -/

theorem distinct_empty : Distinct empty := List.nodup_nil

theorem Distinct.set (h : m.Distinct) (s : Series) (n : Nat) : (m.set s n).Distinct := by
  refine List.nodup_cons.mpr ⟨?_, h.sublist (List.filter_sublist.map _)⟩
  simp

theorem Distinct.bump (h : m.Distinct) (s : Series) : (m.bump s).Distinct := h.set s _

/-- The total is made up of the value of one series and of all others. -/
theorem total_eq_add (h : m.Distinct) (s : Series) (name : String) :
    m.total name = (if s.name = name then m.value s else 0) +
      total ⟨m.values.filter (·.1 != s)⟩ name := by
  obtain ⟨values⟩ := m
  induction values with
  | nil => simp [total, value]
  | cons x rest ih =>
    obtain ⟨hx, hrest⟩ := List.nodup_cons.mp h
    have ih := ih hrest
    simp only [total, value] at ih ⊢
    by_cases hs : x.1 = s
    · subst hs
      have hall : rest.filter (·.1 != x.1) = rest := by
        refine List.filter_eq_self.mpr fun y hy => ?_
        have hne : y.1 ≠ x.1 := fun he => hx (List.mem_map.mpr ⟨y, hy, he⟩)
        simpa using hne
      by_cases hname : x.1.name = name
      · simp [hall, hname]
      · simp [hall, hname]
    · by_cases hname : x.1.name = name
      · simp [hname, hs, ih, Nat.add_left_comm]
      · simpa [hname, hs] using ih

theorem total_set (h : m.Distinct) (s : Series) (n : Nat) (name : String) :
    (m.set s n).total name + (if s.name = name then m.value s else 0) =
      m.total name + if s.name = name then n else 0 := by
  rw [total_eq_add h s name, total, set]
  by_cases hname : s.name = name
  · simp [hname, total]
    omega
  · simp [hname, total]

/-- Counting one more adds one to the total of the name. -/
theorem total_bump (h : m.Distinct) (s : Series) (name : String) :
    (m.bump s).total name = m.total name + if s.name = name then 1 else 0 := by
  have hset := total_set h s (m.value s + 1) name
  rw [bump]
  by_cases hname : s.name = name
  · simp only [hname, if_true] at hset ⊢
    omega
  · simpa [hname] using hset

theorem total_set_of_ne (h : m.Distinct) {s : Series} {name : String} (hs : s.name ≠ name)
    (n : Nat) : (m.set s n).total name = m.total name := by
  simpa [hs] using total_set h s n name

end DirectoryLogin.Http.Metrics
