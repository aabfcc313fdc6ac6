import DirectoryLogin.Login.Service
import DirectoryLogin.Proofs.Account.Disguise
import DirectoryLogin.Proofs.Directory.Registry
import DirectoryLogin.Proofs.Login.Mask
import DirectoryLogin.Proofs.Login.Request

/-!
# Logins in disguise

A login looks at a stored hash only to try a password on it or to see that there is one, and at the
password of a service account not at all. So a login under a `Disguise` asks the directories the
same questions, fails for the same reason or succeeds with the same account in disguise, and leaves
the same store in disguise behind.

* `candidates_registry` and `walk_map`: the directories are asked the same;
* `evaluate_identity`: the policy judges the same;
* `approve_identity`: an identity gets the same account;
* `login_store` and `ssoLogin_store`: both ways in.
-/

namespace DirectoryLogin.Disguise

open Settings (Authentication)
open Time (Instant)

variable (d : Disguise)

/-! ## Directories -/

def definition (s : ServerDefinition) : ServerDefinition :=
  { s with bindPassword := d.bindPassword s.bindPassword }

/-- A directory that has another password for its service account and answers as before. -/
def directory (x : Directory) : Directory := { x with definition := d.definition x.definition }

def registry (r : Registry) : Registry := ⟨r.directories.map d.directory⟩

def realm (r : Realm) : Realm := { r with registry := d.registry r.registry }

theorem get?_registry (r : Registry) (sid : String) :
    (d.registry r).get? sid = (r.get? sid).map d.directory := List.find?_map

theorem sids_registry (r : Registry) : (d.registry r).sids = r.sids := List.map_map

theorem candidates_registry (r : Registry) (c : Authentication) :
    (d.registry r).candidates c = (r.candidates c).map d.directory :=
  Registry.candidates_map (d.get?_registry r) fun _ _ _ => rfl

/-! ## Identities -/

def identity (i : Identity) : Identity := { i with definition := d.definition i.definition }

open Resolution (Verdict askServer walk)

def verdict : Verdict → Verdict
  | .settled i => .settled (d.identity i)
  | .passed s => .passed s

def resolution (found : Resolution) : Resolution :=
  { found with result := found.result.map d.identity }

theorem askServer_directory (x : Directory) (username : String) (password : Option String)
    (s : Setbacks) :
    askServer (d.directory x) username password s =
      (d.verdict (askServer x username password s).1, (askServer x username password s).2) := by
  have found : (d.directory x).findEntry = x.findEntry := rfl
  have verified : (d.directory x).verifyPassword = x.verifyPassword := rfl
  have sid : (d.directory x).sid = x.sid := rfl
  unfold askServer
  rw [found, verified, sid]
  dsimp only
  split
  · rfl
  · rfl
  · rfl
  · rfl
  · split
    · rfl
    · split <;> rfl

theorem walk_map (username : String) (password : Option String) (s : Setbacks)
    (ds : List Directory) :
    walk username password s (ds.map d.directory) = d.resolution (walk username password s ds) := by
  induction ds generalizing s with
  | nil => rfl
  | cons x rest ih =>
    simp only [List.map_cons, walk, askServer_directory]
    rcases askServer x username password s with ⟨settled | passed, questions⟩
    · rfl
    · simp only [verdict, ih]
      rfl

theorem ofName_registry (r : Registry) (c : Authentication) (username : String)
    (password : Option String) :
    Resolution.ofName (d.registry r) c username password =
      d.resolution (Resolution.ofName r c username password) := by
  unfold Resolution.ofName
  rw [candidates_registry]
  cases r.candidates c with
  | nil => rfl
  | cons x rest => exact d.walk_map username password .none (x :: rest)

theorem ofCredentials_registry (r : Registry) (c : Authentication) (username password : String) :
    Resolution.ofCredentials (d.registry r) c username password =
      d.resolution (Resolution.ofCredentials r c username password) := by
  unfold Resolution.ofCredentials
  dsimp only
  split
  · rfl
  · exact d.ofName_registry r c _ _

theorem ofAsserted_registry (r : Registry) (c : Authentication) (username : String) :
    Resolution.ofAsserted (d.registry r) c username =
      d.resolution (Resolution.ofAsserted r c username) := by
  unfold Resolution.ofAsserted
  dsimp only
  split
  · rfl
  · exact d.ofName_registry r c _ _

/-! ## The policy -/

theorem checkRules_identity (i : Identity) (rules : List Rule) :
    Policy.checkRules (d.identity i) rules = Policy.checkRules i rules := by
  have entry : (d.identity i).entry = i.entry := rfl
  have username : (d.identity i).username = i.username := rfl
  induction rules with
  | nil => rfl
  | cons rule rest ih => simp only [Policy.checkRules, entry, username, ih]

theorem evaluate_identity (c : Authentication) (p : Provider) (rules : List Rule) (i : Identity) :
    Policy.evaluate c p rules (d.identity i) = Policy.evaluate c p rules i := by
  have predicate : Policy.checkPredicate c (d.identity i) = Policy.checkPredicate c i := rfl
  have grants : Policy.lookupGrants c p (d.identity i) = Policy.lookupGrants c p i := rfl
  have entry : (d.identity i).entry = i.entry := rfl
  unfold Policy.evaluate
  rw [entry, predicate, checkRules_identity, grants]

/-! ## Logins -/

def outcome (o : Outcome) : Outcome := { o with account := d.account o.account }

/-- What a login leaves behind, in disguise. -/
def attempt (a : Attempt) : Attempt := ⟨a.result.map d.outcome, d.store a.store, a.questions⟩

theorem acceptsPassword_account (a : Account) (password : String) :
    (d.account a).acceptsPassword password = a.acceptsPassword password := by
  unfold Account.acceptsPassword account
  cases a.passHash with
  | none => rfl
  | some text => exact d.accepts text password

theorem localUse_account (c : Authentication) (s : Store) (a : Account) :
    Login.localUse c (d.store s) (d.account a) = Login.localUse c s a := by
  have present : (d.account a).passHash.isSome = a.passHash.isSome := Option.isSome_map
  have bypasses : (d.account a).bypassesDirectory = a.bypassesDirectory := rfl
  have link : (d.store s).authmap (d.account a).uid directoryModule =
      s.authmap a.uid directoryModule := rfl
  unfold Login.localUse
  rw [present, bypasses, link]

theorem settledLocally_account (c : Authentication) (s : Store) (a : Account) (password : String) :
    Login.settledLocally c (d.store s) (d.account a) password =
      Login.settledLocally c s a password := by
  unfold Login.settledLocally
  rw [localUse_account, acceptsPassword_account]

theorem withLocalPassword_account (now : Instant) (a : Account) (password : String) (s : Store) :
    Login.withLocalPassword now (d.account a) password (d.store s) =
      d.attempt (Login.withLocalPassword now a password s) := by
  have touched : (d.store s).touchLogin a.uid now = d.store (s.touchLogin a.uid now) :=
    d.mask.modify_store s a.uid fun _ => rfl
  have active : (d.account a).isActive = a.isActive := rfl
  unfold Login.withLocalPassword
  rw [acceptsPassword_account, active]
  split
  · rfl
  · split
    · rfl
    · exact congrArg (Attempt.mk _ · _) touched

theorem approve_identity (r : Realm) (c : Authentication) (now : Instant) (i : Identity)
    (method : LoginMethod) (s : Store) :
    Login.approve (d.realm r) c now (d.identity i) method (d.store s) =
      ((Login.approve r c now i method s).1.map d.outcome,
        d.store (Login.approve r c now i method s).2) :=
  d.mask.approve_follows (d.evaluate_identity c r.provider r.rules i) ⟨rfl, rfl, rfl⟩ now method s

theorem approveResolved_resolution (r : Realm) (c : Authentication) (now : Instant)
    (found : Resolution) (method : String → LoginMethod) (s : Store) :
    Login.approveResolved (d.realm r) c now (d.resolution found) method (d.store s) =
      d.attempt (Login.approveResolved r c now found method s) := by
  obtain ⟨result, questions⟩ := found
  cases result with
  | error f => rfl
  | ok i =>
    have approved := d.approve_identity r c now i (method i.sid) s
    exact congrArg (fun x => (⟨x.1, x.2, questions⟩ : Attempt)) approved

theorem withDirectoryPassword_store (r : Realm) (c : Authentication) (now : Instant)
    (name password : String) (s : Store) :
    Login.withDirectoryPassword (d.realm r) c now name password (d.store s) =
      d.attempt (Login.withDirectoryPassword r c now name password s) := by
  have found := d.ofCredentials_registry r.registry c name password
  unfold Login.withDirectoryPassword
  rw [← approveResolved_resolution, ← found]
  rfl

/-- A login with a name and a password. -/
theorem login_store (r : Realm) (c : Authentication) (now : Instant) (name password : String)
    (s : Store) :
    login (d.realm r) c now name password (d.store s) =
      d.attempt (login r c now name password s) := by
  by_cases given : Text.trim name ≠ "" ∧ password ≠ ""
  · have named : (d.store s).accountByName (Text.trim name) =
        (s.accountByName (Text.trim name)).map (Option.map d.account) :=
      d.mask.accountByName_store s (Text.trim name)
    rw [login_given given, login_given given, named]
    cases s.accountByName (Text.trim name) with
    | error e => rfl
    | ok existing =>
      cases existing with
      | none => exact d.withDirectoryPassword_store r c now _ password s
      | some a =>
        simp only [Except.map, Option.map_some, settledLocally_account]
        split
        · exact d.withLocalPassword_account now a password s
        · exact d.withDirectoryPassword_store r c now _ password s
  · rw [login_blank given, login_blank given]
    rfl

/-- A login by single sign-on. -/
theorem ssoLogin_store (r : Realm) (c : Authentication) (now : Instant) (v : Visit) (s : Store) :
    ssoLogin (d.realm r) c now v (d.store s) = d.attempt (ssoLogin r c now v s) := by
  unfold ssoLogin
  split
  · rfl
  · cases SingleSignOn.assertedUsername v c.sso with
    | none => rfl
    | some username =>
      have found := d.ofAsserted_registry r.registry c username
      have approved := d.approveResolved_resolution r c now
        (Resolution.ofAsserted r.registry c username) .singleSignOn s
      rw [← found] at approved
      show (if c.sso.notifyAuthentication then _ else _) = _
      dsimp only [realm] at approved ⊢
      rw [approved]
      split
      · simp only [attempt]
        cases (Login.approveResolved r c now (Resolution.ofAsserted r.registry c username)
          .singleSignOn s).result <;> rfl
      · rfl

end DirectoryLogin.Disguise
