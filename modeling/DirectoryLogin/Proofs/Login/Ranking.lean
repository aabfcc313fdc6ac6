import DirectoryLogin.Proofs.Login.Admission
import Mathlib.Data.List.Basic

/-!
# How the servers decide together

A resolution asks the candidates in their order. The first one that settles the name decides; if
there is none, the setbacks are ranked.

* `Directory.RejectsPassword`, `Directory.FailsWith`: the setbacks, told by a server's answers;
* `Directory.reply`: what a server says of a name, which is exactly one of four things;
* `Ruling` and `walk_ruling`: what the candidates come to, with all questions that they are asked;
* `Ending` and `resolution_ranked`: what every resolution comes to, and that neither success nor
  the kind of failure depends on the order of the candidates.
-/

namespace DirectoryLogin

open Directory (Question)
open Settings (Authentication)

/-! ## One server -/

namespace Directory

/-- The server says that the password is wrong, as it looks for the entry or as it checks the
password. -/
inductive RejectsPassword (d : Directory) (username : String) : Option String → Prop
  | atLookup (password : Option String) :
      d.findEntry username password = .error .invalidCredentials →
      RejectsPassword d username password
  | atCheck (p : String) (e : Entry) :
      d.findEntry username (some p) = .ok (some e) → d.verifyPassword e p = .ok false →
      RejectsPassword d username (some p)

/-- The server fails: it does not answer, it cannot be asked, or it finds the entry and does not
get the password checked. -/
inductive FailsWith (d : Directory) (username : String) : Option String → DirectoryError → Prop
  | unavailable (password : Option String) (message : String) :
      d.findEntry username password = .error (.unavailable message) →
      FailsWith d username password (.unavailable message)
  | misconfigured (password : Option String) (message : String) :
      d.findEntry username password = .error (.misconfigured message) →
      FailsWith d username password (.misconfigured message)
  | atCheck (p : String) (e : Entry) (error : DirectoryError) :
      d.findEntry username (some p) = .ok (some e) → d.verifyPassword e p = .error error →
      FailsWith d username (some p) error

/-- What a server says of a name. -/
inductive Reply where
  | settles (e : Entry)
  | rejects
  | fails (error : DirectoryError)
  /-- There is no entry, or more than one. -/
  | passes
  deriving DecidableEq, Repr

/-- What the server says of a name and a password. -/
def reply (d : Directory) (username : String) (password : Option String) : Reply :=
  match d.findEntry username password, password with
  | .ok none, _ => .passes
  | .ok (some e), none => .settles e
  | .ok (some e), some p =>
    match d.verifyPassword e p with
    | .ok true => .settles e
    | .ok false => .rejects
    | .error error => .fails error
  | .error .invalidCredentials, _ => .rejects
  | .error (.ambiguous _), _ => .passes
  | .error (.unavailable message), _ => .fails (.unavailable message)
  | .error (.misconfigured message), _ => .fails (.misconfigured message)

/-- All that the server is asked about a name. -/
def questionsOn (d : Directory) (username : String) (password : Option String) : List Question :=
  match d.findEntry username password, password with
  | .ok (some e), some _ => [.findEntry d.sid username password, .verifyPassword d.sid e.dn]
  | _, _ => [.findEntry d.sid username password]

variable {d : Directory} {username : String} {password : Option String} {e : Entry}
  {error : DirectoryError}

theorem reply_eq_settles_iff :
    d.reply username password = .settles e ↔ d.Settles username password e := by
  constructor
  · intro h
    unfold reply at h
    split at h
    case h_2 e' hf =>
      cases h
      exact ⟨hf, nofun⟩
    case h_3 e' p hf =>
      split at h
      case h_1 hv =>
        cases h
        refine ⟨hf, fun q hq => ?_⟩
        obtain rfl := Option.some.inj hq
        exact hv
      all_goals cases h
    all_goals cases h
  · intro h
    cases password with
    | none => simp [reply, h.found]
    | some p => simp [reply, h.found, h.verified p rfl]

theorem reply_eq_rejects_iff :
    d.reply username password = .rejects ↔ d.RejectsPassword username password := by
  constructor
  · intro h
    unfold reply at h
    split at h
    case h_3 e' p hf =>
      split at h
      case h_2 hv => exact .atCheck p e' hf hv
      all_goals cases h
    case h_4 hf => exact .atLookup _ hf
    all_goals cases h
  · intro h
    cases h with
    | atLookup _ hf => simp [reply, hf]
    | atCheck p e hf hv => simp [reply, hf, hv]

theorem reply_eq_fails_iff :
    d.reply username password = .fails error ↔ d.FailsWith username password error := by
  constructor
  · intro h
    unfold reply at h
    split at h
    case h_3 e' p hf =>
      split at h
      case h_3 error' hv =>
        cases h
        exact .atCheck p e' error hf hv
      all_goals cases h
    case h_6 message hf =>
      cases h
      exact .unavailable _ message hf
    case h_7 message hf =>
      cases h
      exact .misconfigured _ message hf
    all_goals cases h
  · intro h
    cases h with
    | unavailable _ message hf => simp [reply, hf]
    | misconfigured _ message hf => simp [reply, hf]
    | atCheck p e _ hf hv => simp [reply, hf, hv]

/-! A server without an entry of the name neither rejects the password nor fails. -/

theorem not_rejectsPassword_of_absent (h : d.findEntry username password = .ok none) :
    ¬ d.RejectsPassword username password := by
  rw [← reply_eq_rejects_iff]
  simp [reply, h]

theorem not_failsWith_of_absent (h : d.findEntry username password = .ok none) :
    ¬ d.FailsWith username password error := by
  rw [← reply_eq_fails_iff]
  simp [reply, h]

end Directory

namespace Resolution

variable {d : Directory} {ds ds' before after : List Directory} {username : String}
  {password : Option String} {sb : Setbacks}

/-- What becomes of the setbacks when a server has replied. -/
def verdictOf (d : Directory) (username : String) (sb : Setbacks) : Directory.Reply → Verdict
  | .settles e => .settled ⟨e, username, d.definition⟩
  | .rejects => .passed sb.rejectPassword
  | .fails error => .passed (sb.fail d.sid error)
  | .passes => .passed sb

theorem askServer_eq (d : Directory) (username : String) (password : Option String)
    (sb : Setbacks) :
    askServer d username password sb =
      (verdictOf d username sb (d.reply username password), d.questionsOn username password) := by
  unfold askServer
  cases hf : d.findEntry username password with
  | error error => cases error <;> simp [Directory.reply, Directory.questionsOn, hf, verdictOf]
  | ok found =>
    cases found with
    | none => simp [Directory.reply, Directory.questionsOn, hf, verdictOf]
    | some e =>
      cases password with
      | none => simp [Directory.reply, Directory.questionsOn, hf, verdictOf]
      | some p =>
        cases hv : d.verifyPassword e p with
        | error error => simp [Directory.reply, Directory.questionsOn, hf, hv, verdictOf]
        | ok right =>
          cases right <;> simp [Directory.reply, Directory.questionsOn, hf, hv, verdictOf]

/-! ## The candidates -/

/-- Some server settles the name. -/
def Settled (username : String) (password : Option String) (ds : List Directory) : Prop :=
  ∃ d ∈ ds, ∃ e, d.Settles username password e

/-- Some server says that the password is wrong. -/
def Rejected (username : String) (password : Option String) (ds : List Directory) : Prop :=
  ∃ d ∈ ds, d.RejectsPassword username password

/-- Some server fails. -/
def Failed (username : String) (password : Option String) (ds : List Directory) : Prop :=
  ∃ d ∈ ds, ∃ error, d.FailsWith username password error

/-- All that a list of servers is asked about a name. -/
def questionsTo (username : String) (password : Option String) (ds : List Directory) :
    List Question :=
  ds.flatMap fun d => d.questionsOn username password

/-- What servers that are asked in order come to, with what they are asked. -/
inductive Ruling (username : String) (password : Option String) (ds : List Directory) :
    Resolution → Prop
  | settled (before after : List Directory) (d : Directory) (e : Entry) :
      ds = before ++ d :: after → ¬ Settled username password before →
      d.Settles username password e →
      Ruling username password ds
        ⟨.ok ⟨e, username, d.definition⟩, questionsTo username password (before ++ [d])⟩
  | wrongPassword :
      ¬ Settled username password ds → Rejected username password ds →
      Ruling username password ds ⟨.error .invalidCredentials, questionsTo username password ds⟩
  | serverFailed (before after : List Directory) (d : Directory) (error : DirectoryError) :
      ¬ Settled username password ds → ¬ Rejected username password ds →
      ds = before ++ d :: after → ¬ Failed username password before →
      d.FailsWith username password error →
      Ruling username password ds ⟨.error (.server d.sid error), questionsTo username password ds⟩
  | unknown :
      ¬ Settled username password ds → ¬ Rejected username password ds →
      ¬ Failed username password ds →
      Ruling username password ds ⟨.error .notFound, questionsTo username password ds⟩

theorem not_settled_cons :
    ¬ Settled username password (d :: ds) ↔
      (∀ e, d.reply username password ≠ .settles e) ∧ ¬ Settled username password ds := by
  simp [Settled, Directory.reply_eq_settles_iff]

theorem walk_cons (username : String) (password : Option String) (sb : Setbacks) (d : Directory)
    (ds : List Directory) :
    walk username password sb (d :: ds) =
      match verdictOf d username sb (d.reply username password) with
      | .settled i => ⟨.ok i, d.questionsOn username password⟩
      | .passed sb' =>
        ⟨(walk username password sb' ds).result,
          d.questionsOn username password ++ (walk username password sb' ds).questions⟩ := by
  rw [walk, askServer_eq]
  cases verdictOf d username sb (d.reply username password) <;> rfl

/-- The first server that settles the name decides, and no later one is asked. -/
theorem walk_of_settles {e : Entry} (hb : ¬ Settled username password before)
    (hd : d.Settles username password e) (sb : Setbacks) (after : List Directory) :
    walk username password sb (before ++ d :: after) =
      ⟨.ok ⟨e, username, d.definition⟩, questionsTo username password (before ++ [d])⟩ := by
  induction before generalizing sb with
  | nil =>
    rw [List.nil_append, walk_cons, Directory.reply_eq_settles_iff.mpr hd]
    simp [verdictOf, questionsTo]
  | cons x before ih =>
    obtain ⟨hx, hb⟩ := not_settled_cons.mp hb
    rw [List.cons_append, walk_cons]
    cases hr : x.reply username password with
    | settles e' => exact absurd hr (hx e')
    | rejects => simp [verdictOf, ih hb, questionsTo]
    | fails error => simp [verdictOf, ih hb, questionsTo]
    | passes => simp [verdictOf, ih hb, questionsTo]

/-- The setbacks after a server that does not settle the name. -/
def note (username : String) (password : Option String) (sb : Setbacks) (d : Directory) :
    Setbacks :=
  match d.reply username password with
  | .rejects => sb.rejectPassword
  | .fails error => sb.fail d.sid error
  | .settles _ | .passes => sb

theorem walk_of_not_settled (h : ¬ Settled username password ds) (sb : Setbacks) :
    walk username password sb ds =
      ⟨.error (ds.foldl (note username password) sb).toFailure,
        questionsTo username password ds⟩ := by
  induction ds generalizing sb with
  | nil => rfl
  | cons d ds ih =>
    obtain ⟨hd, hds⟩ := not_settled_cons.mp h
    rw [walk_cons]
    cases hr : d.reply username password with
    | settles e => exact absurd hr (hd e)
    | rejects => simp [verdictOf, ih hds, questionsTo, note, hr]
    | fails error => simp [verdictOf, ih hds, questionsTo, note, hr]
    | passes => simp [verdictOf, ih hds, questionsTo, note, hr]

/-! ## The setbacks -/

theorem wrongPassword_foldl_note (sb : Setbacks) :
    (ds.foldl (note username password) sb).wrongPassword = true ↔
      sb.wrongPassword = true ∨ Rejected username password ds := by
  induction ds generalizing sb with
  | nil => simp [Rejected]
  | cons d ds ih =>
    have hcons : Rejected username password (d :: ds) ↔
        d.reply username password = .rejects ∨ Rejected username password ds := by
      simp [Rejected, Directory.reply_eq_rejects_iff]
    rw [List.foldl_cons, ih, hcons, ← or_assoc]
    refine or_congr_left ?_
    cases hr : d.reply username password with
    | rejects => simp [note, hr, Setbacks.rejectPassword]
    | fails error => simp [note, hr, Setbacks.fail]
    | settles e => simp [note, hr]
    | passes => simp [note, hr]

/-- The first failure that was noted stays. -/
theorem failed_foldl_note_of_some {x : String × DirectoryError} (h : sb.failed = some x)
    (ds : List Directory) : (ds.foldl (note username password) sb).failed = some x := by
  induction ds generalizing sb with
  | nil => exact h
  | cons d ds ih =>
    refine ih ?_
    cases hr : d.reply username password with
    | rejects => simpa [note, hr, Setbacks.rejectPassword] using h
    | fails error => simp [note, hr, Setbacks.fail, h]
    | settles e => simpa [note, hr] using h
    | passes => simpa [note, hr] using h

theorem failed_foldl_note_of_not_failed (h : ¬ Failed username password ds) (sb : Setbacks) :
    (ds.foldl (note username password) sb).failed = sb.failed := by
  induction ds generalizing sb with
  | nil => rfl
  | cons d ds ih =>
    have hcons : (∀ error, d.reply username password ≠ .fails error) ∧
        ¬ Failed username password ds := by
      simpa [Failed, Directory.reply_eq_fails_iff] using h
    rw [List.foldl_cons, ih hcons.2]
    cases hr : d.reply username password with
    | rejects => simp [note, hr, Setbacks.rejectPassword]
    | fails error => exact absurd hr (hcons.1 error)
    | settles e => simp [note, hr]
    | passes => simp [note, hr]

theorem failed_foldl_note_of_fails {error : DirectoryError}
    (hb : ¬ Failed username password before) (hd : d.FailsWith username password error)
    (after : List Directory) :
    ((before ++ d :: after).foldl (note username password) .none).failed = some (d.sid, error) := by
  rw [List.foldl_append, List.foldl_cons]
  refine failed_foldl_note_of_some ?_ after
  have hnone := failed_foldl_note_of_not_failed hb Setbacks.none
  simp only [note, Directory.reply_eq_fails_iff.mpr hd, Setbacks.fail, hnone]
  rfl

/-- The first element of a list that has a property. -/
theorem exists_first {α : Type} {P : α → Prop} {l : List α} (h : ∃ x ∈ l, P x) :
    ∃ before x after, l = before ++ x :: after ∧ P x ∧ ¬ ∃ y ∈ before, P y := by
  induction l with
  | nil => simp at h
  | cons x l ih =>
    by_cases hx : P x
    · exact ⟨[], x, l, rfl, hx, by simp⟩
    · obtain ⟨before, y, after, rfl, hy, hb⟩ := ih (by simpa [hx] using h)
      exact ⟨x :: before, y, after, rfl, hy, by simpa [hx] using hb⟩

/-- Every list of servers comes to a ruling. -/
theorem walk_ruling (username : String) (password : Option String) (ds : List Directory) :
    Ruling username password ds (walk username password .none ds) := by
  by_cases hs : Settled username password ds
  · obtain ⟨before, d, after, rfl, ⟨e, hd⟩, hb⟩ := exists_first hs
    rw [walk_of_settles hb hd]
    exact .settled before after d e rfl hb hd
  · rw [walk_of_not_settled hs]
    have hwrong : (ds.foldl (note username password) .none).wrongPassword = true ↔
        Rejected username password ds := by
      simp [wrongPassword_foldl_note, Setbacks.none]
    by_cases hr : Rejected username password ds
    · rw [Setbacks.toFailure, if_pos (hwrong.mpr hr)]
      exact .wrongPassword hs hr
    · rw [Setbacks.toFailure, if_neg (hwrong.not.mpr hr)]
      by_cases hf : Failed username password ds
      · obtain ⟨before, d, after, rfl, ⟨error, hd⟩, hb⟩ := exists_first hf
        rw [failed_foldl_note_of_fails hb hd]
        exact .serverFailed before after d error hs hr rfl hb hd
      · rw [failed_foldl_note_of_not_failed hf]
        exact .unknown hs hr hf

/-! ## The order of the candidates -/

/-- The kind of a resolution's failure. -/
def kind? (found : Resolution) : Option FailureKind :=
  match found.result with
  | .ok _ => none
  | .error f => some f.kind

/-- The kind of failure, told without the order of the servers. -/
theorem Ruling.kind?_cases {found : Resolution} (h : Ruling username password ds found) :
    (Settled username password ds ∧ found.kind? = none) ∨
      ¬ Settled username password ds ∧
        ((Rejected username password ds ∧ found.kind? = some .invalidCredentials) ∨
          ¬ Rejected username password ds ∧
            ((Failed username password ds ∧ found.kind? = some .serverError) ∨
              ¬ Failed username password ds ∧ found.kind? = some .notFound)) := by
  cases h with
  | settled before after d e hds hb hd =>
    exact .inl ⟨⟨d, by simp [hds], e, hd⟩, rfl⟩
  | wrongPassword hs hr => exact .inr ⟨hs, .inl ⟨hr, rfl⟩⟩
  | serverFailed before after d error hs hr hds hb hd =>
    exact .inr ⟨hs, .inr ⟨hr, .inl ⟨⟨d, by simp [hds], error, hd⟩, rfl⟩⟩⟩
  | unknown hs hr hf => exact .inr ⟨hs, .inr ⟨hr, .inr ⟨hf, rfl⟩⟩⟩

theorem kind?_walk_perm (h : ds'.Perm ds) (username : String) (password : Option String) :
    (walk username password .none ds').kind? = (walk username password .none ds).kind? := by
  have hs : Settled username password ds' ↔ Settled username password ds := by
    simp only [Settled, h.mem_iff]
  have hr : Rejected username password ds' ↔ Rejected username password ds := by
    simp only [Rejected, h.mem_iff]
  have hf : Failed username password ds' ↔ Failed username password ds := by
    simp only [Failed, h.mem_iff]
  have hcases := (walk_ruling username password ds).kind?_cases
  have hcases' := (walk_ruling username password ds').kind?_cases
  rw [hs, hr, hf] at hcases'
  grind

/-! ## Every resolution -/

/-- Finds the identity of a name, with the password that was submitted or without one. -/
def ofSubmitted (r : Registry) (c : Authentication) (username : String) :
    Option String → Resolution
  | some password => ofCredentials r c username password
  | none => ofAsserted r c username

/-- All that a resolution can come to. A blank name or an empty password asks nobody. -/
inductive Ending (r : Registry) (c : Authentication) (username : String) :
    Option String → Resolution → Prop
  | blankName : Text.trim username = "" → Ending r c username none ⟨.error .notFound, []⟩
  | blankCredentials (p : String) :
      Text.trim username = "" ∨ p = "" →
      Ending r c username (some p) ⟨.error .invalidCredentials, []⟩
  | noCandidate (password : Option String) :
      Text.trim username ≠ "" → password ≠ some "" → r.candidates c = [] →
      Ending r c username password ⟨.error (.misconfigured .noCandidate), []⟩
  | ruled (password : Option String) (found : Resolution) :
      Text.trim username ≠ "" → password ≠ some "" → r.candidates c ≠ [] →
      Ruling (Text.trim username) password (r.candidates c) found →
      Ending r c username password found

theorem ofName_ending {r : Registry} {c : Authentication}
    (hn : Text.trim username ≠ "") (hp : password ≠ some "") :
    Ending r c username password (ofName r c (Text.trim username) password) := by
  unfold ofName
  split
  · rename_i hc
    exact .noCandidate password hn hp hc
  · rename_i hc
    exact .ruled password _ hn hp hc (walk_ruling _ _ _)

theorem ofSubmitted_ending (r : Registry) (c : Authentication) (username : String)
    (password : Option String) :
    Ending r c username password (ofSubmitted r c username password) := by
  cases password with
  | none =>
    simp only [ofSubmitted, ofAsserted]
    split
    · rename_i hb
      exact .blankName (by simpa using hb)
    · rename_i hb
      exact ofName_ending (by simpa using hb) nofun
  | some p =>
    simp only [ofSubmitted, ofCredentials]
    split
    · rename_i hb
      exact .blankCredentials p (by simpa using hb)
    · rename_i hb
      rw [Bool.or_eq_true, not_or] at hb
      exact ofName_ending (by simpa using hb.1) (by simpa using hb.2)

theorem kind?_ofName_perm {r r' : Registry} {c c' : Authentication}
    (h : (r'.candidates c').Perm (r.candidates c)) (username : String)
    (password : Option String) :
    (ofName r' c' username password).kind? = (ofName r c username password).kind? := by
  unfold ofName
  cases hc : r.candidates c with
  | nil =>
    rw [hc] at h
    rw [h.eq_nil]
  | cons d ds =>
    cases hc' : r'.candidates c' with
    | nil =>
      rw [hc'] at h
      rw [hc] at h
      exact absurd h.symm.eq_nil (List.cons_ne_nil d ds)
    | cons d' ds' =>
      rw [hc, hc'] at h
      exact kind?_walk_perm h username password

theorem kind?_ofSubmitted_perm {r r' : Registry} {c c' : Authentication}
    (h : (r'.candidates c').Perm (r.candidates c)) (username : String)
    (password : Option String) :
    (ofSubmitted r' c' username password).kind? = (ofSubmitted r c username password).kind? := by
  cases password with
  | none =>
    simp only [ofSubmitted, ofAsserted]
    split
    · rfl
    · exact kind?_ofName_perm h _ _
  | some p =>
    simp only [ofSubmitted, ofCredentials]
    split
    · rfl
    · exact kind?_ofName_perm h _ _

theorem candidates_perm {c : Authentication} (hm : c.mode = .mixed) {sids : List String}
    (h : sids.Perm c.sids) (r : Registry) :
    (r.candidates { c with sids }).Perm (r.candidates c) := by
  simp only [Registry.candidates, hm]
  exact (h.filterMap _).filter _

end Resolution

open Resolution in
/-- Blank credentials ask nobody; otherwise the first candidate that settles the name decides, and
if there is none the setbacks are ranked. The order of the candidates does not matter to success
and to the kind of failure, nor in mixed mode does the order of the ids in the settings. -/
theorem resolution_ranked (r : Registry) (c : Authentication) (username : String)
    (password : Option String) :
    Ending r c username password (ofSubmitted r c username password) ∧
      (∀ r' c', (r'.candidates c').Perm (r.candidates c) →
        (ofSubmitted r' c' username password).kind? =
          (ofSubmitted r c username password).kind?) ∧
      ∀ sids, c.mode = .mixed → sids.Perm c.sids →
        (ofSubmitted r { c with sids } username password).kind? =
          (ofSubmitted r c username password).kind? :=
  ⟨ofSubmitted_ending r c username password,
    fun _ _ h => kind?_ofSubmitted_perm h username password,
    fun _ hm h => kind?_ofSubmitted_perm (candidates_perm hm h r) username password⟩

/-! ## Two servers at the sample site -/

namespace Sample

/-- A second server, which is down. -/
def deadTree : Tree :=
  .ofEntries (.preset "durmstrang" .openLdap "ldap://durmstrang.edu" "dc=durmstrang,dc=edu") [] true

def twoServers : Registry := .ofList [tree.toDirectory, deadTree.toDirectory]

end Sample

open Resolution in
/-- A wrong password outranks the server that is down, whichever of the two is asked first. -/
theorem sample_ranked :
    ["durmstrang", "hogwarts"].Perm ["hogwarts", "durmstrang"] ∧
      (ofSubmitted Sample.twoServers
        { Sample.settings with sids := ["hogwarts", "durmstrang"] } "hpotter"
          (some "wrong")).kind? = some .invalidCredentials ∧
      (ofSubmitted Sample.twoServers
        { Sample.settings with sids := ["durmstrang", "hogwarts"] } "hpotter"
          (some "wrong")).kind? = some .invalidCredentials := by
  have hperm : ["durmstrang", "hogwarts"].Perm ["hogwarts", "durmstrang"] := by decide
  have hfirst : (ofSubmitted Sample.twoServers
      { Sample.settings with sids := ["hogwarts", "durmstrang"] } "hpotter"
        (some "wrong")).kind? = some .invalidCredentials := by
    decide +kernel
  obtain ⟨-, -, hmixed⟩ := resolution_ranked Sample.twoServers
    { Sample.settings with sids := ["hogwarts", "durmstrang"] } "hpotter" (some "wrong")
  exact ⟨hperm, hfirst, (hmixed _ rfl hperm).trans hfirst⟩

end DirectoryLogin
