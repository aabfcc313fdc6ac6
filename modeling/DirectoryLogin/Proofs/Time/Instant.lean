import DirectoryLogin.Time.Calendar

/-!
# Earlier and later

* `Instant.before_later_iff`: outside of leap seconds, instants compare as their times in
  nanoseconds do;
* `later_onCalendar`: where the calendar covers a later instant.
-/

namespace DirectoryLogin.Time

/-! ## Order -/

namespace Instant

variable {a b c : Instant}

theorem before_iff :
    a.before b = true ↔ a.seconds < b.seconds ∨ a.seconds = b.seconds ∧ a.nanos < b.nanos := by
  simp [before]

/-- An instant that is not before `b` is not before anything up to `b` either. -/
theorem not_before_trans (hab : b.before a = false) (hbc : c.before b = false) :
    c.before a = false := by
  rw [Bool.eq_false_iff, Ne, before_iff] at hab hbc ⊢
  omega

/-- The time in nanoseconds. Outside of leap seconds it orders the instants, and later is more. -/
def total (t : Instant) : Int := t.seconds * secondNanos + t.nanos

theorem before_later_iff (n : Nat) (ha : a.nanos < secondNanos) (hb : b.nanos < secondNanos) :
    a.before (b.later n) = true ↔ a.total < b.total + n * secondNanos := by
  rw [before_iff, later, if_pos hb, total, total]
  simp only [secondNanos] at ha hb ⊢
  omega

end Instant

/-! ## The calendar -/

/-- The calendar covers the instant. -/
def OnCalendar (t : Instant) : Prop := Instant.ofUnix? t.seconds t.nanos = some t

instance (t : Instant) : Decidable (OnCalendar t) :=
  inferInstanceAs (Decidable (Instant.ofUnix? t.seconds t.nanos = some t))

theorem onCalendar_iff {t : Instant} : OnCalendar t ↔
    (firstSecond ≤ t.seconds ∧ t.seconds ≤ lastSecond) ∧
      (t.nanos < secondNanos ∨
        t.nanos < 2 * secondNanos ∧ t.seconds.fmod 60 = 59) := by
  simp only [OnCalendar, Instant.ofUnix?]
  split
  · rename_i h
    simp only [Bool.or_eq_true, decide_eq_true_eq] at h
    simp only [reduceCtorEq, false_iff]
    omega
  · rename_i h
    simp only [Bool.or_eq_true, decide_eq_true_eq, not_or, Int.not_lt] at h
    split
    · rename_i hn
      simpa [h] using hn
    · rename_i hn
      simpa [h] using hn

/-- An instant of the calendar is followed by instants of the calendar up to its last second. -/
theorem later_onCalendar {now : Instant} {n : Nat} (h : OnCalendar now) :
    OnCalendar (now.later n) ↔ now.seconds + n ≤ lastSecond := by
  obtain ⟨hseconds, hnanos⟩ := onCalendar_iff.mp h
  rw [onCalendar_iff, Instant.later]
  split
  · rename_i hn
    simp only [hn, true_or, and_true]
    omega
  · split
    · rename_i hzero
      obtain rfl : n = 0 := by simpa using hzero
      simp only [hnanos, and_true]
      omega
    · simp only [secondNanos] at hnanos ⊢
      omega

end DirectoryLogin.Time
