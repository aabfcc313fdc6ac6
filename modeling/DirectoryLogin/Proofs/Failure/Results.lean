/-!
# Results of computations that may fail

* `bind_eq_ok_iff`, `bind_eq_error_iff`: a computation in two parts succeeds by two successes, and
  fails in the first part or, after that, in the second;
* `toOption_eq_some_iff`: what is left of a result that leaves the cause of a failure out.
-/

namespace DirectoryLogin

variable {ε α β : Type} {x : Except ε α} {g : α → Except ε β} {a : α} {b : β} {e : ε}

theorem bind_eq_ok_iff : x >>= g = .ok b ↔ ∃ a, x = .ok a ∧ g a = .ok b := by
  cases x with
  | error => simp [bind, Except.bind]
  | ok a => simp [bind, Except.bind]

theorem bind_eq_error_iff :
    x >>= g = .error e ↔ x = .error e ∨ ∃ a, x = .ok a ∧ g a = .error e := by
  cases x with
  | error => simp [bind, Except.bind]
  | ok a => simp [bind, Except.bind]

theorem toOption_eq_some_iff : x.toOption = some a ↔ x = .ok a := by
  cases x <;> simp [Except.toOption]

end DirectoryLogin
