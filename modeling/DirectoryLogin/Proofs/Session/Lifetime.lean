import DirectoryLogin.Proofs.Time.Instant
import DirectoryLogin.Session.Table
import Mathlib.Algebra.Group.Int.Defs
import Mathlib.Algebra.Group.Nat.Defs
import Mathlib.Data.List.Induction
import Mathlib.Data.List.Nodup
import Mathlib.Data.List.Pairwise

/-!
# How long sessions live

A session table clears expired sessions away at some calls and not at others, so what it stores
says little. What counts is the history of the calls: `Live` says of a history which sessions are
alive, without a word about the table.

* `Distinct`: the ids in a table are different, whatever is called;
* `Holds`: how a table and its history go together, which `perform_holds` keeps up;
* `get_eq_some_iff`: a cookie leads to a session exactly if it carries the signed id of a live one;
* `active_eq`: the active sessions are the live ones, counted;
* `get_perform`: a call on other ids is not noticed;
* `session_lifetime`: all of these together.
-/

namespace DirectoryLogin

open Digest (Bytes)
open Time (Instant OnCalendar)

namespace SessionTable

/-! ## Histories -/

/-- A call on a session table, with what it gets from outside. -/
inductive Call where
  | create (now : Instant) (id : String) (uid : Int) (name : String) (method : LoginMethod)
  | get (now : Instant) (value : String)
  | remove (value : String)
  | active (now : Instant)
  deriving DecidableEq, Repr

/-- The table after a call. -/
def perform (t : SessionTable) : Call → SessionTable
  | .create now id uid name method => (t.create now id uid name method).2
  | .get now value => (t.get now value).2
  | .remove value => (t.remove value).2
  | .active _ => t

/-- The table after a history. -/
def after (t : SessionTable) (h : List Call) : SessionTable := h.foldl perform t

theorem after_concat (t : SessionTable) (h : List Call) (c : Call) :
    t.after (h ++ [c]) = (t.after h).perform c := List.foldl_concat ..

namespace Call

/-- What the clock shows at the call. -/
def reading? : Call → Option Instant
  | create now .. | get now _ | active now => some now
  | remove _ => none

/-- The id that was made for the call. -/
def newId? : Call → Option String
  | create _ id .. => some id
  | _ => none

/-- The session that the call starts. -/
def session? (lifetime : Nat) : Call → Option Session
  | create now id uid name method => some ⟨id, uid, name, method, now, now.later lifetime⟩
  | _ => none

/-- The call ends the session of an id. -/
def Removes (secret : Bytes) (id : String) : Call → Prop
  | remove value => SessionToken.verify? secret value = some id
  | _ => False

theorem newId?_of_session? {lifetime : Nat} {c : Call} {s : Session}
    (h : c.session? lifetime = some s) : c.newId? = some s.id := by
  cases c with
  | create => cases h; rfl
  | get | remove | active => cases h

end Call

def readings (h : List Call) : List Instant := h.filterMap Call.reading?

def newIds (h : List Call) : List String := h.filterMap Call.newId?

/-- The clock never goes back, and no id is made twice. -/
structure Orderly (h : List Call) : Prop where
  clock : (readings h).Pairwise fun a b => b.before a = false
  ids : (newIds h).Nodup

instance (h : List Call) : Decidable (Orderly h) :=
  decidable_of_iff ((readings h).Pairwise (fun a b => b.before a = false) ∧ (newIds h).Nodup)
    ⟨fun hh => ⟨hh.1, hh.2⟩, fun hh => ⟨hh.clock, hh.ids⟩⟩

namespace Orderly

variable {h : List Call} {c : Call}

theorem left {h' : List Call} (hh : Orderly (h ++ h')) : Orderly h where
  clock := by
    have hc := hh.clock
    rw [readings, List.filterMap_append] at hc
    exact (List.pairwise_append.mp hc).1
  ids := by
    have hi := hh.ids
    rw [newIds, List.filterMap_append] at hi
    exact hi.of_append_left

theorem reading {now : Instant} (hh : Orderly (h ++ [c])) (hc : c.reading? = some now) :
    ∀ r ∈ readings h, now.before r = false := by
  intro r hr
  have hclock := hh.clock
  rw [readings, List.filterMap_append] at hclock
  exact (List.pairwise_append.mp hclock).2.2 r hr now (by simp [hc])

theorem fresh {id : String} (hh : Orderly (h ++ [c])) (hc : c.newId? = some id) :
    id ∉ newIds h := by
  have hids := hh.ids
  rw [newIds, List.filterMap_append, List.filterMap_cons_some hc] at hids
  exact fun hm => (List.nodup_append.mp hids).2.2 id hm id (by simp) rfl

end Orderly

/-! ## Live sessions -/

/-- The session was started and has not been removed since. -/
def Kept (secret : Bytes) (lifetime : Nat) (h : List Call) (s : Session) : Prop :=
  ∃ earlier c later, h = earlier ++ c :: later ∧ c.session? lifetime = some s ∧
    ∀ c' ∈ later, ¬ c'.Removes secret s.id

/-- The session was started, has not been removed since, and its time is not over. -/
def Live (secret : Bytes) (lifetime : Nat) (h : List Call) (now : Instant) (s : Session) : Prop :=
  Kept secret lifetime h s ∧ now.before s.expiresAt = true

section Kept

variable {secret : Bytes} {lifetime : Nat} {h : List Call} {c : Call} {s : Session}

theorem kept_nil : ¬ Kept secret lifetime [] s := by
  rintro ⟨earlier, c, later, h, -⟩
  simp at h

theorem kept_concat : Kept secret lifetime (h ++ [c]) s ↔
    c.session? lifetime = some s ∨ Kept secret lifetime h s ∧ ¬ c.Removes secret s.id := by
  constructor
  · rintro ⟨earlier, c', later, heq, hs, hlater⟩
    rcases List.eq_nil_or_concat later with rfl | ⟨init, last, rfl⟩
    · obtain ⟨-, hlast⟩ := List.append_inj' heq rfl
      obtain rfl := (List.cons.inj hlast).1
      exact .inl hs
    · rw [List.concat_eq_append, ← List.cons_append, ← List.append_assoc] at heq
      obtain ⟨rfl, hlast⟩ := List.append_inj' heq rfl
      obtain rfl := (List.cons.inj hlast).1
      rw [List.concat_eq_append, List.forall_mem_append] at hlater
      exact .inr ⟨⟨earlier, c', init, rfl, hs, hlater.1⟩, hlater.2 _ (List.mem_singleton_self _)⟩
  · rintro (hs | ⟨⟨earlier, c', later, rfl, hs, hlater⟩, hc⟩)
    · exact ⟨h, c, [], rfl, hs, fun _ hmem => (nomatch hmem)⟩
    · refine ⟨earlier, c', later ++ [c], by simp, hs, List.forall_mem_append.mpr ⟨hlater, ?_⟩⟩
      exact List.forall_mem_singleton.mpr hc

theorem Kept.mem_newIds (hk : Kept secret lifetime h s) : s.id ∈ newIds h := by
  obtain ⟨earlier, c, later, rfl, hs, -⟩ := hk
  exact List.mem_filterMap.mpr ⟨c, by simp, Call.newId?_of_session? hs⟩

end Kept

/-! ## The table and its history -/

/-- The table stores sessions that are kept, each under another id, and every one that had not
expired when the clock was read. -/
structure Holds (t : SessionTable) (h : List Call) : Prop where
  kept : ∀ s ∈ t.sessions, Kept t.secret t.lifetime h s
  stored : ∀ s, Kept t.secret t.lifetime h s →
    s ∈ t.sessions ∨ ∃ r ∈ readings h, s.isExpired r = true
  ids : t.sessions.Pairwise fun a b => a.id ≠ b.id

theorem isExpired_mono {s : Session} {r now : Instant} (h : s.isExpired r = true)
    (hnow : now.before r = false) : s.isExpired now = true := by
  rw [Session.isExpired, Bool.not_eq_true'] at h ⊢
  exact Instant.not_before_trans h hnow

theorem readings_concat (h : List Call) (c : Call) :
    readings (h ++ [c]) = readings h ++ c.reading?.toList := by
  cases hc : c.reading? <;> simp [readings, hc]

section Table

variable {t : SessionTable} {h : List Call} {c : Call} {s : Session}

theorem mem_erase {id : String} : s ∈ (t.erase id).sessions ↔ s ∈ t.sessions ∧ s.id ≠ id := by
  simp [erase]

theorem mem_clear {now : Instant} :
    s ∈ (t.clear now).sessions ↔ s ∈ t.sessions ∧ s.isExpired now = false := by
  simp [clear]

/-- A look at a cookie adds no session, -/
theorem get_sublist (t : SessionTable) (now : Instant) (value : String) :
    (t.get now value).2.sessions.Sublist t.sessions := by
  unfold SessionTable.get
  split
  · exact List.Sublist.refl _
  · split
    · exact List.Sublist.refl _
    · split
      · exact List.filter_sublist
      · exact List.Sublist.refl _

/-- and neither does a removal. -/
theorem remove_sublist (t : SessionTable) (value : String) :
    (t.remove value).2.sessions.Sublist t.sessions := by
  unfold SessionTable.remove
  split
  · exact List.Sublist.refl _
  · exact List.filter_sublist

/-- The sessions of a table have different ids. -/
def Distinct (t : SessionTable) : Prop := t.sessions.Pairwise fun a b => a.id ≠ b.id

instance (t : SessionTable) : Decidable t.Distinct :=
  inferInstanceAs (Decidable (t.sessions.Pairwise fun a b => a.id ≠ b.id))

namespace Distinct

theorem eq_of_id (ht : t.Distinct) {s' : Session} (hs : s ∈ t.sessions) (hs' : s' ∈ t.sessions)
    (hid : s.id = s'.id) : s = s' :=
  List.inj_on_of_nodup_map (List.pairwise_map.mpr ht) hs hs' hid

theorem find?_eq_some_iff (ht : t.Distinct) {id : String} :
    t.find? id = some s ↔ s ∈ t.sessions ∧ s.id = id := by
  constructor
  · intro hs
    exact ⟨List.mem_of_find?_eq_some hs, by simpa using List.find?_some hs⟩
  · rintro ⟨hmem, rfl⟩
    cases hf : t.find? s.id with
    | none => simpa using List.find?_eq_none.mp hf s hmem
    | some s' =>
      have hid : s'.id = s.id := by simpa using List.find?_some hf
      rw [ht.eq_of_id (List.mem_of_find?_eq_some hf) hmem hid]

theorem create (ht : t.Distinct) (now : Instant) (id : String) (uid : Int) (name : String)
    (method : LoginMethod) : (t.create now id uid name method).2.Distinct := by
  have hkept : ((t.clear now).erase id).Distinct :=
    List.Pairwise.sublist (List.filter_sublist.trans List.filter_sublist) ht
  refine List.pairwise_append.mpr ⟨hkept, List.pairwise_singleton _ _, ?_⟩
  intro a ha b hb
  rw [List.mem_singleton.mp hb]
  exact (mem_erase.mp ha).2

theorem perform (ht : t.Distinct) (c : Call) : (t.perform c).Distinct := by
  cases c with
  | create now id uid name method => exact ht.create now id uid name method
  | get now value => exact List.Pairwise.sublist (get_sublist t now value) ht
  | remove value => exact List.Pairwise.sublist (remove_sublist t value) ht
  | active now => exact ht

theorem after (ht : t.Distinct) (h : List Call) : (t.after h).Distinct := by
  induction h generalizing t with
  | nil => exact ht
  | cons c h ih => exact ih (ht.perform c)

end Distinct

theorem Holds.distinct (ht : Holds t h) : t.Distinct := ht.ids

/-- A call that starts no session leaves a table that fits the history, if it drops exactly the
removed ones and otherwise nothing but expired ones. -/
theorem Holds.drop {t' : SessionTable} (ht : Holds t h) (hsecret : t'.secret = t.secret)
    (hlifetime : t'.lifetime = t.lifetime) (hsub : t'.sessions.Sublist t.sessions)
    (hnone : c.session? t.lifetime = none)
    (hremoved : ∀ s ∈ t'.sessions, ¬ c.Removes t.secret s.id)
    (hkept : ∀ s ∈ t.sessions, ¬ c.Removes t.secret s.id →
      s ∈ t'.sessions ∨ ∃ now, c.reading? = some now ∧ s.isExpired now = true) :
    Holds t' (h ++ [c]) where
  kept s hs := by
    rw [hsecret, hlifetime, kept_concat]
    exact .inr ⟨ht.kept s (hsub.subset hs), hremoved s hs⟩
  stored s hs := by
    rw [hsecret, hlifetime, kept_concat, hnone] at hs
    obtain ⟨hs, hc⟩ := hs.resolve_left (fun he => nomatch he)
    rw [readings_concat]
    rcases ht.stored s hs with hmem | ⟨r, hr, hexp⟩
    · rcases hkept s hmem hc with hmem' | ⟨now, hnow, hexp⟩
      · exact .inl hmem'
      · exact .inr ⟨now, List.mem_append_right _ (by simp [hnow]), hexp⟩
    · exact .inr ⟨r, List.mem_append_left _ hr, hexp⟩
  ids := ht.ids.sublist hsub

theorem create_holds {now : Instant} {id name : String} {uid : Int} {method : LoginMethod}
    (ht : Holds t h) (hfresh : id ∉ newIds h) :
    Holds (t.create now id uid name method).2 (h ++ [.create now id uid name method]) where
  kept s hs := by
    rw [kept_concat]
    rcases List.mem_append.mp hs with hs | hs
    · exact .inr ⟨ht.kept s (mem_clear.mp (mem_erase.mp hs).1).1, fun hr => hr⟩
    · exact .inl (congrArg some (List.mem_singleton.mp hs).symm)
  stored s hs := by
    rw [readings_concat]
    rcases kept_concat.mp hs with hs | ⟨hs, -⟩
    · exact .inl (List.mem_append_right _ (List.mem_singleton.mpr (Option.some.inj hs).symm))
    · have hid : s.id ≠ id := fun he => hfresh (he ▸ hs.mem_newIds)
      rcases ht.stored s hs with hmem | ⟨r, hr, hexp⟩
      · cases hnow : s.isExpired now with
        | true => exact .inr ⟨now, List.mem_append_right _ (List.mem_singleton_self _), hnow⟩
        | false =>
          exact .inl (List.mem_append_left _ (mem_erase.mpr ⟨mem_clear.mpr ⟨hmem, hnow⟩, hid⟩))
      · exact .inr ⟨r, List.mem_append_left _ hr, hexp⟩
  ids := ht.distinct.create now id uid name method

theorem get_holds (ht : Holds t h) (now : Instant) (value : String) :
    Holds (t.get now value).2 (h ++ [.get now value]) := by
  have hsame : Holds t (h ++ [.get now value]) :=
    ht.drop rfl rfl (List.Sublist.refl _) rfl (fun _ _ => id) (fun _ hs _ => .inl hs)
  unfold SessionTable.get
  split
  · exact hsame
  · split
    · exact hsame
    · rename_i id _ s hfind
      split
      · rename_i hexp
        obtain ⟨hmem, rfl⟩ := ht.distinct.find?_eq_some_iff.mp hfind
        refine ht.drop rfl rfl List.filter_sublist rfl (fun _ _ => fun hf => hf) ?_
        intro s' hs' _
        by_cases hid : s'.id = s.id
        · exact .inr ⟨now, rfl, ht.distinct.eq_of_id hs' hmem hid ▸ hexp⟩
        · exact .inl (mem_erase.mpr ⟨hs', hid⟩)
      · exact hsame

theorem remove_holds (ht : Holds t h) (value : String) :
    Holds (t.remove value).2 (h ++ [.remove value]) := by
  unfold SessionTable.remove
  split
  · rename_i hv
    refine ht.drop rfl rfl (List.Sublist.refl _) rfl (fun s _ hr => ?_) (fun _ hs _ => .inl hs)
    rw [Call.Removes, hv] at hr
    cases hr
  · rename_i id hv
    refine ht.drop rfl rfl List.filter_sublist rfl (fun s hs hr => ?_) (fun s hs hr => .inl ?_)
    · rw [Call.Removes, hv] at hr
      exact (mem_erase.mp hs).2 (Option.some.inj hr).symm
    · exact mem_erase.mpr ⟨hs, fun he => hr (by rw [Call.Removes, hv, he])⟩

theorem perform_holds (hh : Orderly (h ++ [c])) (ht : Holds t h) :
    Holds (t.perform c) (h ++ [c]) := by
  cases c with
  | create now id uid name method => exact create_holds ht (hh.fresh rfl)
  | get now value => exact get_holds ht now value
  | remove value => exact remove_holds ht value
  | active now =>
    exact ht.drop rfl rfl (List.Sublist.refl _) rfl (fun _ _ => id) (fun _ hs _ => .inl hs)

/-! ## What the table answers -/

/-- What the clock has shown so far is not after `now`. -/
def UpTo (now : Instant) (h : List Call) : Prop := ∀ r ∈ readings h, now.before r = false

theorem Holds.live_iff {now : Instant} (ht : Holds t h) (hnow : UpTo now h) :
    Live t.secret t.lifetime h now s ↔ s ∈ t.sessions ∧ s.isExpired now = false := by
  simp only [Live, Session.isExpired, Bool.not_eq_false']
  constructor
  · rintro ⟨hkept, hlive⟩
    rcases ht.stored s hkept with hmem | ⟨r, hr, hexp⟩
    · exact ⟨hmem, hlive⟩
    · -- what had expired when the clock was read before is not alive now
      have hover := isExpired_mono hexp (hnow r hr)
      simp [Session.isExpired, hlive] at hover
  · rintro ⟨hmem, hlive⟩
    exact ⟨ht.kept s hmem, hlive⟩

theorem get_fst (t : SessionTable) (now : Instant) (value : String) :
    (t.get now value).1 =
      ((SessionToken.verify? t.secret value).bind t.find?).filter (!·.isExpired now) := by
  unfold SessionTable.get
  split
  · rename_i hv
    simp [hv]
  · rename_i id hv
    split
    · rename_i hf
      simp [hv, hf]
    · rename_i s hf
      split
      · rename_i hexp
        simp [hv, hf, Option.filter, hexp]
      · rename_i hexp
        simp [hv, hf, Option.filter, hexp]

/-- A cookie leads to a session exactly if it carries the signed id of one that has not expired. -/
theorem Distinct.get_eq_some_iff {now : Instant} {value : String} (ht : t.Distinct) :
    (t.get now value).1 = some s ↔
      SessionToken.verify? t.secret value = some s.id ∧ s ∈ t.sessions ∧
        s.isExpired now = false := by
  rw [get_fst, Option.filter_eq_some_iff, Option.bind_eq_some_iff, Bool.not_eq_true']
  constructor
  · rintro ⟨⟨id, hv, hf⟩, hexp⟩
    obtain ⟨hmem, rfl⟩ := ht.find?_eq_some_iff.mp hf
    exact ⟨hv, hmem, hexp⟩
  · rintro ⟨hv, hmem, hexp⟩
    exact ⟨⟨s.id, hv, ht.find?_eq_some_iff.mpr ⟨hmem, rfl⟩⟩, hexp⟩

theorem get_eq_some_iff {now : Instant} {value : String} (ht : Holds t h) (hnow : UpTo now h) :
    (t.get now value).1 = some s ↔
      SessionToken.verify? t.secret value = some s.id ∧ Live t.secret t.lifetime h now s := by
  rw [ht.distinct.get_eq_some_iff, ht.live_iff hnow]

/-- The active sessions are the live ones, counted by their ids. -/
theorem active_eq {now : Instant} (ht : Holds t h) (hnow : UpTo now h) :
    ∃ ids : List String, ids.Nodup ∧
      (∀ id, id ∈ ids ↔ ∃ s, s.id = id ∧ Live t.secret t.lifetime h now s) ∧
      t.active now = ids.length := by
  refine ⟨(t.sessions.filter (!·.isExpired now)).map Session.id, ?_, fun id => ?_, ?_⟩
  · exact List.pairwise_map.mpr (ht.ids.sublist List.filter_sublist)
  · simp only [ht.live_iff hnow, List.mem_map, List.mem_filter, Bool.not_eq_true']
    exact ⟨fun ⟨s, hs, hid⟩ => ⟨s, hid, hs⟩, fun ⟨s, hid, hs⟩ => ⟨s, hs, hid⟩⟩
  · rw [active, List.countP_eq_length_filter, List.length_map]

theorem perform_eq (t : SessionTable) (c : Call) :
    t.perform c = { t with sessions := (t.perform c).sessions } := by
  cases c with
  | create | active => rfl
  | get now value =>
    simp only [perform, SessionTable.get]
    split
    · rfl
    · split
      · rfl
      · split <;> rfl
  | remove value =>
    simp only [perform, SessionTable.remove]
    split <;> rfl

theorem perform_secret (t : SessionTable) (c : Call) : (t.perform c).secret = t.secret := by
  rw [perform_eq]

theorem perform_lifetime (t : SessionTable) (c : Call) : (t.perform c).lifetime = t.lifetime := by
  rw [perform_eq]

/-- A call that neither makes nor removes the id of a cookie does not change what the cookie leads
to. -/
theorem get_perform {now : Instant} {value : String} (hh : Orderly (h ++ [c])) (ht : Holds t h)
    (hnow : UpTo now (h ++ [c]))
    (hother : ∀ id, SessionToken.verify? t.secret value = some id →
      c.newId? ≠ some id ∧ ¬ c.Removes t.secret id) :
    ((t.perform c).get now value).1 = (t.get now value).1 := by
  have hbefore : UpTo now h := fun r hr => hnow r (by
    rw [readings_concat]
    exact List.mem_append_left _ hr)
  refine Option.ext fun s => ?_
  rw [get_eq_some_iff (perform_holds hh ht) hnow, get_eq_some_iff ht hbefore, perform_secret,
    perform_lifetime]
  refine and_congr_right fun hv => and_congr_left fun _ => ?_
  obtain ⟨hnew, hremoved⟩ := hother s.id hv
  rw [kept_concat]
  constructor
  · rintro (hs | ⟨hs, -⟩)
    · exact absurd (Call.newId?_of_session? hs) hnew
    · exact hs
  · exact fun hs => .inr ⟨hs, hremoved⟩

end Table

/-! ## A table from its start -/

theorem after_secret (t : SessionTable) (h : List Call) : (t.after h).secret = t.secret := by
  induction h generalizing t with
  | nil => rfl
  | cons c h ih => exact (ih (t.perform c)).trans (perform_secret t c)

theorem after_lifetime (t : SessionTable) (h : List Call) : (t.after h).lifetime = t.lifetime := by
  induction h generalizing t with
  | nil => rfl
  | cons c h ih => exact (ih (t.perform c)).trans (perform_lifetime t c)

theorem empty_holds (secret : String) (ttlSeconds : Nat) : Holds (empty secret ttlSeconds) [] where
  kept _ hs := nomatch hs
  stored _ hs := absurd hs kept_nil
  ids := List.Pairwise.nil

theorem after_holds (secret : String) (ttlSeconds : Nat) {h : List Call} (hh : Orderly h) :
    Holds ((empty secret ttlSeconds).after h) h := by
  induction h using List.reverseRecOn with
  | nil => exact empty_holds secret ttlSeconds
  | append_singleton h c ih =>
    rw [after_concat]
    exact perform_holds hh (ih hh.left)

/-- Which sessions a table answers with, from its start and after any orderly history: those that
are live by the history. Sessions do not touch each other, and their end is computed without
overflow: their length fits a 64-bit count of milliseconds and their end a 64-bit count of seconds,
and the end is on the calendar unless the calendar itself ends before, which a clock that has not
reached the calendar's last ten years rules out. -/
theorem session_lifetime (secret : String) (ttlSeconds : Nat) (h : List Call) :
    (∀ now value s, Orderly (h ++ [.get now value]) →
      ((((empty secret ttlSeconds).after h).get now value).1 = some s ↔
        SessionToken.verify? (Digest.utf8 secret) value = some s.id ∧
          Live (Digest.utf8 secret) (min ttlSeconds maxLifetime) h now s)) ∧
    (∀ now, Orderly (h ++ [.active now]) → ∃ ids : List String, ids.Nodup ∧
      (∀ id, id ∈ ids ↔
        ∃ s, s.id = id ∧ Live (Digest.utf8 secret) (min ttlSeconds maxLifetime) h now s) ∧
      ((empty secret ttlSeconds).after h).active now = ids.length) ∧
    (∀ c now value, Orderly (h ++ [c] ++ [.get now value]) →
      (∀ id, SessionToken.verify? (Digest.utf8 secret) value = some id →
        c.newId? ≠ some id ∧ ¬ c.Removes (Digest.utf8 secret) id) →
      (((empty secret ttlSeconds).after (h ++ [c])).get now value).1 =
        (((empty secret ttlSeconds).after h).get now value).1) ∧
    ∀ now, OnCalendar now →
      min ttlSeconds maxLifetime * 1000 < 2 ^ 63 ∧
      now.seconds + (min ttlSeconds maxLifetime : Nat) < 2 ^ 63 ∧
      (OnCalendar (now.later (min ttlSeconds maxLifetime)) ↔
        now.seconds + (min ttlSeconds maxLifetime : Nat) ≤ Time.lastSecond) ∧
      (now.seconds ≤ Time.lastSecond - maxLifetime →
        OnCalendar (now.later (min ttlSeconds maxLifetime))) := by
  have hsecret : ∀ h, ((empty secret ttlSeconds).after h).secret = Digest.utf8 secret :=
    after_secret _
  have hlifetime : ((empty secret ttlSeconds).after h).lifetime = min ttlSeconds maxLifetime :=
    after_lifetime _ h
  have hmax : min ttlSeconds maxLifetime ≤ 315360000 := Nat.min_le_right _ _
  refine ⟨fun now value s hh => ?_, fun now hh => ?_, fun c now value hh hother => ?_,
    fun now hnow => ⟨by omega, ?_, Time.later_onCalendar hnow, fun hearly => ?_⟩⟩
  · rw [← hlifetime, ← hsecret h]
    exact get_eq_some_iff (after_holds secret ttlSeconds hh.left) (hh.reading rfl)
  · rw [← hlifetime, ← hsecret h]
    exact active_eq (after_holds secret ttlSeconds hh.left) (hh.reading rfl)
  · rw [after_concat]
    rw [← hsecret h] at hother
    exact get_perform hh.left (after_holds secret ttlSeconds hh.left.left) (hh.reading rfl) hother
  · have hlast := (Time.onCalendar_iff.mp hnow).1.2
    have hend : Time.lastSecond < 2 ^ 62 := by decide +kernel
    omega
  · have hshort : min ttlSeconds maxLifetime ≤ maxLifetime := Nat.min_le_right _ _
    exact (Time.later_onCalendar hnow).mpr (by omega)

end SessionTable

/-! ## Two sessions -/

namespace Sample

open SessionTable

def sessionStart : Instant := ⟨1700000000, 0⟩

/-- Two people get a session one after the other. -/
def sessionCalls : List Call :=
  [.create sessionStart "id" 2 "hpotter" .localPassword,
    .create (sessionStart.later 10) "other" 3 "ssnape" .localPassword]

/-- The second of them logs out. -/
def secondLogout : Call := .remove (SessionToken.sign (Digest.utf8 "secret") "other")

/-- The first session. -/
def firstSession : Session :=
  ⟨"id", 2, "hpotter", .localPassword, sessionStart, sessionStart.later 3600⟩

/-- The value of its cookie. -/
def firstCookie : String := SessionToken.sign (Digest.utf8 "secret") "id"

end Sample

open SessionTable in
/-- The first session is live up to its last second and over in the next, and nothing changes for
it when the second one ends. -/
theorem sample_session_lifetime :
    (((empty "secret" 3600).after Sample.sessionCalls).get (Sample.sessionStart.later 3599)
      Sample.firstCookie).1 = some Sample.firstSession ∧
    (((empty "secret" 3600).after Sample.sessionCalls).get (Sample.sessionStart.later 3600)
      Sample.firstCookie).1 ≠ some Sample.firstSession ∧
    (∃ ids : List String, "id" ∈ ids ∧ ids.Nodup ∧
      ((empty "secret" 3600).after Sample.sessionCalls).active (Sample.sessionStart.later 3599) =
        ids.length) ∧
    (((empty "secret" 3600).after (Sample.sessionCalls ++ [Sample.secondLogout])).get
      (Sample.sessionStart.later 3599) Sample.firstCookie).1 =
      (((empty "secret" 3600).after Sample.sessionCalls).get (Sample.sessionStart.later 3599)
        Sample.firstCookie).1 ∧
    Sample.sessionStart.seconds ≤ Time.lastSecond - maxLifetime ∧
    OnCalendar (Sample.sessionStart.later 3600) := by
  obtain ⟨hget, hactive, hother, hend⟩ := session_lifetime "secret" 3600 Sample.sessionCalls
  have hfirst : SessionToken.verify? (Digest.utf8 "secret") Sample.firstCookie = some "id" := by
    decide +kernel
  have hsecond : SessionToken.verify? (Digest.utf8 "secret")
      (SessionToken.sign (Digest.utf8 "secret") "other") = some "other" := by
    decide +kernel
  have hlive : Live (Digest.utf8 "secret") 3600 Sample.sessionCalls
      (Sample.sessionStart.later 3599) Sample.firstSession := by
    refine ⟨⟨[], _, _, rfl, rfl, fun c hc => ?_⟩, by decide⟩
    obtain rfl := List.mem_singleton.mp hc
    exact id
  have hearly : Sample.sessionStart.seconds ≤ Time.lastSecond - maxLifetime := by decide +kernel
  refine ⟨?_, ?_, ?_, ?_, hearly, ?_⟩
  · exact (hget _ _ _ (by decide +kernel)).mpr ⟨hfirst, hlive⟩
  · intro hover
    obtain ⟨-, -, hbefore⟩ := (hget _ _ _ (by decide +kernel)).mp hover
    exact absurd hbefore (by decide)
  · obtain ⟨ids, hnodup, hmem, hlength⟩ := hactive (Sample.sessionStart.later 3599)
      (by decide +kernel)
    exact ⟨ids, (hmem "id").mpr ⟨Sample.firstSession, rfl, hlive⟩, hnodup, hlength⟩
  · refine hother _ _ _ (by decide +kernel) fun id hid => ?_
    rw [hfirst] at hid
    obtain rfl := Option.some.inj hid
    refine ⟨nofun, fun hr => ?_⟩
    rw [Sample.secondLogout, Call.Removes, hsecond] at hr
    exact absurd hr (by decide)
  · obtain ⟨-, -, -, honCalendar⟩ := hend Sample.sessionStart (by decide +kernel)
    exact honCalendar hearly

end DirectoryLogin
