import DirectoryLogin.Proofs.Directory.Registry
import DirectoryLogin.Proofs.Http.Runs
import DirectoryLogin.Proofs.Login.Ranking

/-!
# What the login form gives away

The form words a failed login alike whether a server knows the name or not. Beside the message
stands the code of the failure, which tells the two apart, and a server that is down ranks between
them.

* `searches`: whether a password login comes to a search in the directories at all;
* `refusal` and `Probe.responses`: the response to a login that fails is told by the kind of the
  failure;
* `Probe`: one login, put to two portals that differ in what one candidate answers;
* `sameAnswer_iff`: when the two responses agree, wholly or but for the code;
* `form_discloses_names`: two portals of which only one knows the name, and the code tells which.
-/

namespace DirectoryLogin

open Settings (Authentication)
open Time (Instant)

/-! ## Logins -/

namespace LoginRequest

variable {r : Realm} {c : Authentication} {now : Instant} {s : Store} {name secret : String}

/-- A password login comes to a search in the directories. -/
def searches (c : Authentication) (s : Store) (name secret : String) : Bool :=
  !(Text.trim name).isEmpty && !secret.isEmpty &&
    match s.accountByName name with
    | .error _ => false
    | .ok none => true
    | .ok (some a) => !Login.settledLocally c s a secret

theorem passwordSearch?_eq (r : Realm) (c : Authentication) (s : Store) (name secret : String) :
    passwordSearch? r c s name secret =
      if searches c s name secret then
        some (Resolution.ofCredentials r.registry c (Text.trim name) secret)
      else none := by
  unfold passwordSearch? searches
  cases (Text.trim name).isEmpty with
  | true => rfl
  | false =>
    cases secret.isEmpty with
    | true => rfl
    | false =>
      cases s.accountByName name with
      | error e => rfl
      | ok found =>
        cases found with
        | none => rfl
        | some a => cases hl : Login.settledLocally c s a secret <;> simp [hl]

/-- A login that comes to no search is the same whatever the directories are. -/
theorem login_of_not_searches (h : searches c s name secret = false) (r r' : Realm) :
    login r c now name secret s = login r' c now name secret s := by
  by_cases hgiven : Text.trim name ≠ "" ∧ secret ≠ ""
  · rw [login_given hgiven, login_given hgiven, Store.accountByName_trim]
    have hempty := mt blank_iff.mp (not_not.mpr hgiven)
    rw [Bool.not_eq_true, Bool.or_eq_false_iff] at hempty
    simp only [searches, hempty.1, hempty.2, Bool.not_false, Bool.and_self, Bool.true_and] at h
    cases hn : s.accountByName name with
    | error e => rfl
    | ok found =>
      rw [hn] at h
      cases found with
      | none => cases h
      | some a =>
        rw [Bool.not_eq_false'] at h
        simp only [h, ↓reduceIte]
  · rw [login_blank hgiven, login_blank hgiven]

end LoginRequest

/-! ## The kind of failure -/

namespace Resolution

variable {found : Resolution}

/-- A search for credentials that are not blank is ruled by the candidates. -/
theorem ofCredentials_ruling {r : Registry} {c : Authentication} {username password : String}
    (hn : Text.trim username ≠ "") (hp : password ≠ "") (hc : r.candidates c ≠ []) :
    Ruling (Text.trim username) (some password) (r.candidates c)
      (ofCredentials r c username password) := by
  have hend := ofSubmitted_ending r c username (some password)
  simp only [ofSubmitted] at hend
  generalize ofCredentials r c username password = found at hend
  cases hend with
  | blankCredentials _ hb => exact absurd hb (not_or.mpr ⟨hn, hp⟩)
  | noCandidate _ _ _ hnone => exact absurd hnone hc
  | ruled _ _ _ _ _ hruling => exact hruling

theorem result_of_kind? {k : FailureKind} (h : found.kind? = some k) :
    ∃ f, found.result = .error f ∧ f.kind = k := by
  unfold kind? at h
  split at h
  · cases h
  · rename_i f hf
    exact ⟨f, hf, Option.some.inj h⟩

/-- The kind of failure to which servers lead of which none settles the name: it is ranked first
that one of them rejects the password (`R`), and next that one of them fails (`F`). -/
structure Ranks (R F : Prop) (k : FailureKind) : Prop where
  rejected : k = .invalidCredentials ↔ R
  failed : k = .serverError ↔ ¬ R ∧ F
  unknown : k = .notFound ↔ ¬ R ∧ ¬ F

variable {name : String} {secret : Option String} {ds : List Directory} {k k' : FailureKind}
  {R R' F F' : Prop}

theorem Ruling.ranks (h : Ruling name secret ds found) (hs : ¬ Settled name secret ds) :
    ∃ f, found.result = .error f ∧
      Ranks (Rejected name secret ds) (Failed name secret ds) f.kind := by
  obtain ⟨hs', -⟩ | ⟨-, ⟨hr, hk⟩ | ⟨hr, ⟨hf, hk⟩ | ⟨hf, hk⟩⟩⟩ := h.kind?_cases
  · exact absurd hs' hs
  all_goals
    obtain ⟨f, hresult, hkind⟩ := result_of_kind? hk
    exact ⟨f, hresult, by constructor <;> simp [*]⟩

namespace Ranks

theorem cases (h : Ranks R F k) :
    k = .invalidCredentials ∨ k = .serverError ∨ k = .notFound := by
  by_cases hr : R
  · exact .inl (h.rejected.mpr hr)
  · by_cases hf : F
    · exact .inr (.inl (h.failed.mpr ⟨hr, hf⟩))
    · exact .inr (.inr (h.unknown.mpr ⟨hr, hf⟩))

theorem congr (h : Ranks R F k) (hr : R ↔ R') (hf : F ↔ F') : Ranks R' F' k := by
  rwa [← propext hr, ← propext hf]

/-- Two lists of servers lead to one kind of failure if both or neither reject the password and,
where they do not, both or neither fail. -/
theorem eq_iff (h : Ranks R F k) (h' : Ranks R' F' k') :
    k = k' ↔ (R ↔ R') ∧ (R ∨ (F ↔ F')) := by
  constructor
  · rintro rfl
    have hr : R ↔ R' := h.rejected.symm.trans h'.rejected
    have hf := h.failed.symm.trans h'.failed
    refine ⟨hr, ?_⟩
    by_cases hrej : R
    · exact .inl hrej
    · simp only [hrej, hr.not.mp hrej, not_false_eq_true, true_and] at hf
      exact .inr hf
  · rintro ⟨hr, hf⟩
    by_cases hrej : R
    · rw [h.rejected.mpr hrej, h'.rejected.mpr (hr.mp hrej)]
    · have hfail := hf.resolve_left hrej
      have hrej' := hr.not.mp hrej
      by_cases hfd : F
      · rw [h.failed.mpr ⟨hrej, hfd⟩, h'.failed.mpr ⟨hrej', hfail.mp hfd⟩]
      · rw [h.unknown.mpr ⟨hrej, hfd⟩, h'.unknown.mpr ⟨hrej', hfail.not.mp hfd⟩]

end Ranks

end Resolution

/-! ## Responses -/

/-- The body without the code of a failure. -/
def Http.Body.withoutCode : Http.Body → Http.Body
  | .json (.object fields) => .json (.object (fields.filter (·.1 != "code")))
  | body => body

namespace Http.Portal

open Resolution (Settled Rejected Failed Ranks)

variable {p : Portal} {m : Moment} {r : Request} {s : State} {k : Credentials} {d d' : Directory}

/-- The response to a failed login, which depends on the kind of the failure and the help link. -/
def refusal (c : Authentication) (kind : FailureKind) : Response :=
  .loginError kind.httpStatus (withHelpLink kind.userMessage c.helpLinkUrl c.helpLinkText) kind.code

/-- The responses have the same status and the same body. -/
def SameAnswer (x y : Response) : Prop := x.status = y.status ∧ x.body = y.body

/-- The responses have the same status and, the code of the failure apart, the same body. -/
def SameButCode (x y : Response) : Prop :=
  x.status = y.status ∧ x.body.withoutCode = y.body.withoutCode

theorem code_eq_iff {kind kind' : FailureKind}
    (h : kind = .invalidCredentials ∨ kind = .serverError ∨ kind = .notFound)
    (h' : kind' = .invalidCredentials ∨ kind' = .serverError ∨ kind' = .notFound) :
    kind.code = kind'.code ↔ kind = kind' := by
  rcases h with rfl | rfl | rfl <;> rcases h' with rfl | rfl | rfl <;> decide

/-- The code in the body tells the kind of the failure. -/
theorem refusal_sameAnswer_iff {c : Authentication} {kind kind' : FailureKind}
    (h : kind = .invalidCredentials ∨ kind = .serverError ∨ kind = .notFound)
    (h' : kind' = .invalidCredentials ∨ kind' = .serverError ∨ kind' = .notFound) :
    SameAnswer (refusal c kind) (refusal c kind') ↔ kind = kind' := by
  constructor
  · rintro ⟨-, hbody⟩
    simp only [refusal, Response.loginError, Response.json, Body.json.injEq, Json.object.injEq,
      List.cons.injEq, Prod.mk.injEq, Json.string.injEq, true_and, and_true] at hbody
    exact (code_eq_iff h h').mp hbody.2
  · rintro rfl
    exact ⟨rfl, rfl⟩

/-- Without the code, a response tells only whether a server failed. -/
theorem refusal_sameButCode_iff {c : Authentication} {kind kind' : FailureKind}
    (h : kind = .invalidCredentials ∨ kind = .serverError ∨ kind = .notFound)
    (h' : kind' = .invalidCredentials ∨ kind' = .serverError ∨ kind' = .notFound) :
    SameButCode (refusal c kind) (refusal c kind') ↔
      (kind = .serverError ↔ kind' = .serverError) := by
  have hstatus : ∀ x : FailureKind,
      x = .invalidCredentials ∨ x = .serverError ∨ x = .notFound →
        (x.httpStatus = 503 ↔ x = .serverError) := by
    rintro x (rfl | rfl | rfl) <;> decide
  constructor
  · rintro ⟨hsame, -⟩
    have hsame' : kind.httpStatus = kind'.httpStatus := hsame
    rw [← hstatus kind h, ← hstatus kind' h', hsame']
  · intro hsame
    rcases h with rfl | rfl | rfl <;> rcases h' with rfl | rfl | rfl
    all_goals first | exact ⟨rfl, rfl⟩ | simp at hsame

theorem finishLogin_refused {kind : LoginKind} {a : Attempt} {f : Failure}
    (h : a.result = .error f) :
    (p.finishLogin m kind a s).response = refusal s.service.live f.kind := by
  have hlive : (s.record kind a).service.live = s.service.live := by rw [record_service]
  simp only [finishLogin, h, failureResponse, Service.failureMessage, hlive]
  rfl

theorem handle_login (hm : r.method = "POST") (hp : r.path = loginPath) :
    (p.handle m r s).response = (p.passwordLogin m r (s.sessionOf m r).2).response := by
  have hroute : Route.ofPath? loginPath = some .login := by decide +kernel
  have hserve : ∀ started s', p.serve m r started s' = p.passwordLogin m r s' := by
    intro started s'
    simp [serve, hp, hroute, Route.isProtected, answer, hm]
  simp [handle, countRequest, Exchange.mapResponse, seamless, asksForLogin, hm, hp, hserve,
    fitMethod]

/-- The portal with a directory in its registry, in place of one with the same id. -/
def withServer (p : Portal) (d : Directory) : Portal :=
  { p with realm := { p.realm with registry := p.realm.registry.insert d } }

/-- Once a login has been attempted, the directories do not matter any more. -/
theorem finishLogin_withServer (p : Portal) (d : Directory) (m : Moment) (kind : LoginKind)
    (a : Attempt) (s : State) :
    (p.withServer d).finishLogin m kind a s = p.finishLogin m kind a s := by
  simp only [finishLogin, cookieOf, withServer]

/-- The servers that a login asks. -/
def candidates (p : Portal) (s : State) : List Directory :=
  p.realm.registry.candidates s.service.live

/-- One login, put to two portals that differ in what one candidate answers, `d` or `d'`. No server
accepts the password. -/
structure Probe (p : Portal) (s : State) (r : Request) (k : Credentials) (d d' : Directory) :
    Prop where
  method : r.method = "POST"
  path : r.path = loginPath
  short : r.isTooLong = false
  body : credentialsOf r = .ok k
  definition : d'.definition = d.definition
  candidate : d ∈ (p.withServer d).candidates s
  unsettled : ¬ Settled (Text.trim k.name) (some k.password) ((p.withServer d).candidates s)
  unsettled' : ¬ Settled (Text.trim k.name) (some k.password) ((p.withServer d').candidates s)

/-- A candidate besides `d` says that the password is wrong. -/
def RejectedElsewhere (p : Portal) (s : State) (k : Credentials) (d : Directory) : Prop :=
  ∃ x ∈ (p.withServer d).candidates s,
    x.sid ≠ d.sid ∧ x.RejectsPassword (Text.trim k.name) (some k.password)

/-- A candidate besides `d` fails. -/
def FailedElsewhere (p : Portal) (s : State) (k : Credentials) (d : Directory) : Prop :=
  ∃ x ∈ (p.withServer d).candidates s,
    x.sid ≠ d.sid ∧ ∃ error, x.FailsWith (Text.trim k.name) (some k.password) error

/-- With the server `x` in the place of `d` there is a failure, which `x` does not outrank by
rejecting the password. -/
def FailureShows (p : Portal) (s : State) (k : Credentials) (d x : Directory) : Prop :=
  ¬ x.RejectsPassword (Text.trim k.name) (some k.password) ∧
    ((∃ error, x.FailsWith (Text.trim k.name) (some k.password) error) ∨ FailedElsewhere p s k d)

namespace Probe

/-- The request is answered with what the login comes to. -/
theorem response_eq (h : Probe p s r k d d') (m : Moment) (p' : Portal) :
    (p'.handle m r s).response =
      (p'.finishLogin m .password (s.service.login p'.realm m.now k.name k.password)
        (s.sessionOf m r).2).response := by
  rw [handle_login h.method h.path]
  simp only [passwordLogin, h.short, Bool.false_eq_true, ↓reduceIte, h.body, sessionOf_service]

theorem response_of_error (h : Probe p s r k d d') (m : Moment) (p' : Portal) {f : Failure}
    (hf : (s.service.login p'.realm m.now k.name k.password).result = .error f) :
    (p'.handle m r s).response = refusal s.service.live f.kind := by
  rw [h.response_eq, finishLogin_refused hf, sessionOf_service]

/-- Where the login comes to a search, the candidates that do not settle the name decide. -/
theorem refused (h : Probe p s r k d d') (m : Moment)
    (hs : LoginRequest.searches s.service.live s.service.store k.name k.password = true)
    {p' : Portal} (hc : p'.candidates s ≠ [])
    (hu : ¬ Settled (Text.trim k.name) (some k.password) (p'.candidates s)) :
    ∃ kind, (p'.handle m r s).response = refusal s.service.live kind ∧
      Ranks (Rejected (Text.trim k.name) (some k.password) (p'.candidates s))
        (Failed (Text.trim k.name) (some k.password) (p'.candidates s)) kind := by
  have hsearch := LoginRequest.passwordSearch?_eq p'.realm s.service.live s.service.store k.name
    k.password
  rw [if_pos hs] at hsearch
  obtain ⟨hname, hpassword, -⟩ := LoginRequest.passwordSearch?_eq_some hsearch
  have hruling := Resolution.ofCredentials_ruling ((Text.trim_trim k.name).symm ▸ hname) hpassword hc
  rw [Text.trim_trim] at hruling
  obtain ⟨f, hf, hranks⟩ := hruling.ranks hu
  have hresult : (s.service.login p'.realm m.now k.name k.password).result = .error f :=
    LoginRequest.attempt_unresolved (q := .password k.name k.password) hsearch hf
  exact ⟨f.kind, h.response_of_error m p' hresult, hranks⟩

/-- Where it does not, both portals answer the same. -/
theorem response_congr (h : Probe p s r k d d') (m : Moment)
    (hs : LoginRequest.searches s.service.live s.service.store k.name k.password = false) :
    ((p.withServer d).handle m r s).response = ((p.withServer d').handle m r s).response := by
  have hlogin : s.service.login (p.withServer d).realm m.now k.name k.password =
      s.service.login (p.withServer d').realm m.now k.name k.password :=
    LoginRequest.login_of_not_searches hs _ _
  rw [h.response_eq m, h.response_eq m, hlogin, finishLogin_withServer, finishLogin_withServer]

/-- The kind of failure with the server `d`, or one of its definition in its place. -/
theorem ranks (h : Probe p s r k d d') {x : Directory} (hx : x.definition = d.definition)
    {kind : FailureKind}
    (hranks : Ranks (Rejected (Text.trim k.name) (some k.password) ((p.withServer x).candidates s))
      (Failed (Text.trim k.name) (some k.password) ((p.withServer x).candidates s)) kind) :
    Ranks (x.RejectsPassword (Text.trim k.name) (some k.password) ∨ RejectedElsewhere p s k d)
      ((∃ error, x.FailsWith (Text.trim k.name) (some k.password) error) ∨
        FailedElsewhere p s k d) kind :=
  hranks.congr (Registry.exists_candidate_insert_iff h.candidate hx)
    (Registry.exists_candidate_insert_iff h.candidate hx)

/-- Where the login comes to a search, both responses are told by kinds of failure. -/
theorem responses (h : Probe p s r k d d') (m : Moment)
    (hs : LoginRequest.searches s.service.live s.service.store k.name k.password = true) :
    ∃ kind kind',
      ((p.withServer d).handle m r s).response = refusal s.service.live kind ∧
      ((p.withServer d').handle m r s).response = refusal s.service.live kind' ∧
      Ranks (d.RejectsPassword (Text.trim k.name) (some k.password) ∨ RejectedElsewhere p s k d)
        ((∃ error, d.FailsWith (Text.trim k.name) (some k.password) error) ∨
          FailedElsewhere p s k d) kind ∧
      Ranks (d'.RejectsPassword (Text.trim k.name) (some k.password) ∨ RejectedElsewhere p s k d)
        ((∃ error, d'.FailsWith (Text.trim k.name) (some k.password) error) ∨
          FailedElsewhere p s k d) kind' := by
  have hne : (p.withServer d).candidates s ≠ [] := List.ne_nil_of_mem h.candidate
  have hne' : (p.withServer d').candidates s ≠ [] := by
    rw [candidates, withServer, Registry.candidates_insert_swap h.definition]
    exact fun hnil => hne (List.map_eq_nil_iff.mp hnil)
  obtain ⟨kind, hresponse, hranks⟩ := h.refused m hs hne h.unsettled
  obtain ⟨kind', hresponse', hranks'⟩ := h.refused m hs hne' h.unsettled'
  exact ⟨kind, kind', hresponse, hresponse', h.ranks rfl hranks, h.ranks h.definition hranks'⟩

theorem sameWhole_iff (h : Probe p s r k d d') (m : Moment) :
    SameAnswer ((p.withServer d).handle m r s).response ((p.withServer d').handle m r s).response ↔
      LoginRequest.searches s.service.live s.service.store k.name k.password = false ∨
        RejectedElsewhere p s k d ∨
        ((d.RejectsPassword (Text.trim k.name) (some k.password) ↔
            d'.RejectsPassword (Text.trim k.name) (some k.password)) ∧
          (d.RejectsPassword (Text.trim k.name) (some k.password) ∨ FailedElsewhere p s k d ∨
            ((∃ error, d.FailsWith (Text.trim k.name) (some k.password) error) ↔
              ∃ error, d'.FailsWith (Text.trim k.name) (some k.password) error))) := by
  cases hs : LoginRequest.searches s.service.live s.service.store k.name k.password with
  | false =>
    rw [h.response_congr m hs]
    exact iff_of_true ⟨rfl, rfl⟩ (.inl rfl)
  | true =>
    obtain ⟨kind, kind', hr, hr', hranks, hranks'⟩ := h.responses m hs
    rw [hr, hr', refusal_sameAnswer_iff hranks.cases hranks'.cases, hranks.eq_iff hranks']
    grind

theorem sameButCode_iff (h : Probe p s r k d d') (m : Moment) :
    SameButCode ((p.withServer d).handle m r s).response ((p.withServer d').handle m r s).response ↔
      LoginRequest.searches s.service.live s.service.store k.name k.password = false ∨
        RejectedElsewhere p s k d ∨ (FailureShows p s k d d ↔ FailureShows p s k d d') := by
  cases hs : LoginRequest.searches s.service.live s.service.store k.name k.password with
  | false =>
    rw [h.response_congr m hs]
    exact iff_of_true ⟨rfl, rfl⟩ (.inl rfl)
  | true =>
    obtain ⟨kind, kind', hr, hr', hranks, hranks'⟩ := h.responses m hs
    rw [hr, hr', refusal_sameButCode_iff hranks.cases hranks'.cases, hranks.failed, hranks'.failed]
    unfold FailureShows
    grind

/-- What is answered with `d`, which has the name by another password, and with `d'`, which does
not have it. -/
theorem responses_of_absent (h : Probe p s r k d d') (m : Moment)
    (hs : LoginRequest.searches s.service.live s.service.store k.name k.password = true)
    (hrejects : d.RejectsPassword (Text.trim k.name) (some k.password))
    (habsent : d'.findEntry (Text.trim k.name) (some k.password) = .ok none) :
    ((p.withServer d).handle m r s).response = refusal s.service.live .invalidCredentials ∧
      ∃ kind, ((p.withServer d').handle m r s).response = refusal s.service.live kind ∧
        Ranks (RejectedElsewhere p s k d) (FailedElsewhere p s k d) kind := by
  obtain ⟨kind, kind', hr, hr', hranks, hranks'⟩ := h.responses m hs
  obtain rfl : kind = .invalidCredentials := hranks.rejected.mpr (.inl hrejects)
  have hfails' : ¬ ∃ error, d'.FailsWith (Text.trim k.name) (some k.password) error :=
    fun ⟨_, hfails⟩ => Directory.not_failsWith_of_absent habsent hfails
  exact ⟨hr, kind', hr', hranks'.congr
    (or_iff_right (Directory.not_rejectsPassword_of_absent habsent)) (or_iff_right hfails')⟩

end Probe

/-- What two portals answer of which one has the server `d` and the other one `d'` in its place.
The whole answers are the same just when the login comes to no search, or another candidate rejects
the password, or the answers of the server count the same: both or neither reject the password and,
where they do not, both or neither fail or there is another failure. But for the code they are the
same if, without a search and without another rejection too, a failure shows in both or in neither.
So where `d` has the name, by another password, and `d'` does not have it, only the code tells the
difference, unless another candidate fails and none rejects the password. -/
theorem sameAnswer_iff (m : Moment) (h : Probe p s r k d d') :
    (SameAnswer ((p.withServer d).handle m r s).response ((p.withServer d').handle m r s).response ↔
      LoginRequest.searches s.service.live s.service.store k.name k.password = false ∨
        RejectedElsewhere p s k d ∨
        ((d.RejectsPassword (Text.trim k.name) (some k.password) ↔
            d'.RejectsPassword (Text.trim k.name) (some k.password)) ∧
          (d.RejectsPassword (Text.trim k.name) (some k.password) ∨ FailedElsewhere p s k d ∨
            ((∃ error, d.FailsWith (Text.trim k.name) (some k.password) error) ↔
              ∃ error, d'.FailsWith (Text.trim k.name) (some k.password) error)))) ∧
    (SameButCode ((p.withServer d).handle m r s).response ((p.withServer d').handle m r s).response ↔
      LoginRequest.searches s.service.live s.service.store k.name k.password = false ∨
        RejectedElsewhere p s k d ∨ (FailureShows p s k d d ↔ FailureShows p s k d d')) ∧
    (d.RejectsPassword (Text.trim k.name) (some k.password) →
      d'.findEntry (Text.trim k.name) (some k.password) = .ok none →
      (SameAnswer ((p.withServer d).handle m r s).response
          ((p.withServer d').handle m r s).response ↔
        LoginRequest.searches s.service.live s.service.store k.name k.password = false ∨
          RejectedElsewhere p s k d) ∧
      (SameButCode ((p.withServer d).handle m r s).response
          ((p.withServer d').handle m r s).response ↔
        LoginRequest.searches s.service.live s.service.store k.name k.password = false ∨
          RejectedElsewhere p s k d ∨ ¬ FailedElsewhere p s k d) ∧
      (LoginRequest.searches s.service.live s.service.store k.name k.password = true →
        ((p.withServer d).handle m r s).response = refusal s.service.live .invalidCredentials ∧
          ∃ kind, ((p.withServer d').handle m r s).response = refusal s.service.live kind ∧
            Ranks (RejectedElsewhere p s k d) (FailedElsewhere p s k d) kind)) := by
  refine ⟨h.sameWhole_iff m, h.sameButCode_iff m, fun hrejects habsent => ?_⟩
  have hrejects' := Directory.not_rejectsPassword_of_absent habsent
  have hfails' : ¬ ∃ error, d'.FailsWith (Text.trim k.name) (some k.password) error :=
    fun ⟨_, hfails⟩ => Directory.not_failsWith_of_absent habsent hfails
  refine ⟨?_, ?_, fun hs => h.responses_of_absent m hs hrejects habsent⟩
  · rw [h.sameWhole_iff m]
    simp [hrejects, hrejects']
  · rw [h.sameButCode_iff m]
    simp [FailureShows, hrejects, hrejects', hfails']

end Http.Portal

/-! ## A name at the sample site -/

namespace Sample

open Http Portal

/-- The server without the person. -/
def emptyTree : Tree := { tree with entries := [] }

/-- Another server that knows the person, by another password. -/
def otherTree : Tree :=
  .ofEntries (.preset "durmstrang" .openLdap "ldap://durmstrang.edu" "dc=durmstrang,dc=edu")
    [⟨⟨"cn=hpotter,dc=durmstrang,dc=edu", "", [("uid", ["hpotter"])]⟩, "word"⟩] false

/-- A login with a password that no server accepts. -/
def wrongLogin : Request := ⟨"POST", ⟨"/user/login", none⟩, [], "name=hpotter&pass=wrong"⟩

/-- The state of the portal with its owner's account and no other. -/
def started : State := stateAfter [.turn ⟨realm, now, .ensureSiteOwner [] "admin" none none⟩]

/-- The portal with the other server. -/
def otherPortal : Portal :=
  { portal with realm := { realm with registry := .ofList [otherTree.toDirectory] } }

/-- The state in which logins ask both servers. -/
def bothAsked : State := .fresh { settings with sids := ["hogwarts", "durmstrang"] } "secret" 3600

end Sample

theorem Resolution.not_settled_of_replies {name : String} {secret : Option String}
    {ds : List Directory} (replies : List Directory.Reply)
    (h : ds.map (fun d => d.reply name secret) = replies) (hr : ∀ e, .settles e ∉ replies) :
    ¬ Settled name secret ds := by
  rintro ⟨d, hd, e, he⟩
  exact hr e (h ▸ List.mem_map.mpr ⟨d, hd, Directory.reply_eq_settles_iff.mpr he⟩)

open Http Portal

theorem sample_probe :
    Probe Sample.portal Sample.started Sample.wrongLogin ⟨"hpotter", "wrong"⟩
      Sample.tree.toDirectory Sample.emptyTree.toDirectory := by
  refine ⟨rfl, rfl, by decide +kernel, by decide +kernel, rfl, ?_, ?_, ?_⟩
  · exact Registry.mem_candidates_of_mixed rfl (by decide) rfl rfl
  · exact Resolution.not_settled_of_replies [.rejects] (by decide +kernel) (by simp)
  · exact Resolution.not_settled_of_replies [.passes] (by decide +kernel) (by simp)

/-- No other server is asked, so none fails. -/
theorem sample_no_failure : ¬ FailedElsewhere Sample.portal Sample.started ⟨"hpotter", "wrong"⟩
    Sample.tree.toDirectory := by
  rintro ⟨x, hx, hother, -⟩
  have hsids : ((Sample.portal.withServer Sample.tree.toDirectory).candidates Sample.started).map
      (·.sid) = ["hogwarts"] := by
    decide +kernel
  have hsid : x.sid ∈ ["hogwarts"] := hsids ▸ List.mem_map_of_mem hx
  exact hother (List.mem_singleton.mp hsid)

/-- Where both servers know the person by other passwords, nobody sees whether the first of them
does. Where only one server is asked, the code shows it and nothing else. -/
theorem name_hidden_by_other :
    (Probe Sample.otherPortal Sample.bothAsked Sample.wrongLogin ⟨"hpotter", "wrong"⟩
        Sample.tree.toDirectory Sample.emptyTree.toDirectory ∧
      SameAnswer
        ((Sample.otherPortal.withServer Sample.tree.toDirectory).handle Sample.moment
          Sample.wrongLogin Sample.bothAsked).response
        ((Sample.otherPortal.withServer Sample.emptyTree.toDirectory).handle Sample.moment
          Sample.wrongLogin Sample.bothAsked).response) ∧
    Probe Sample.portal Sample.started Sample.wrongLogin ⟨"hpotter", "wrong"⟩
        Sample.tree.toDirectory Sample.emptyTree.toDirectory ∧
      SameButCode
        ((Sample.portal.withServer Sample.tree.toDirectory).handle Sample.moment Sample.wrongLogin
          Sample.started).response
        ((Sample.portal.withServer Sample.emptyTree.toDirectory).handle Sample.moment
          Sample.wrongLogin Sample.started).response := by
  have hprobe : Probe Sample.otherPortal Sample.bothAsked Sample.wrongLogin ⟨"hpotter", "wrong"⟩
      Sample.tree.toDirectory Sample.emptyTree.toDirectory := by
    refine ⟨rfl, rfl, by decide +kernel, by decide +kernel, rfl, ?_, ?_, ?_⟩
    · exact Registry.mem_candidates_of_mixed rfl (by decide) rfl rfl
    · exact Resolution.not_settled_of_replies [.rejects, .rejects] (by decide +kernel) (by simp)
    · exact Resolution.not_settled_of_replies [.passes, .rejects] (by decide +kernel) (by simp)
  have helsewhere : RejectedElsewhere Sample.otherPortal Sample.bothAsked ⟨"hpotter", "wrong"⟩
      Sample.tree.toDirectory := by
    refine ⟨Sample.otherTree.toDirectory, ?_, by decide, ?_⟩
    · exact Registry.mem_candidates_of_mixed rfl (by decide) rfl rfl
    · exact Directory.reply_eq_rejects_iff.mp (by decide +kernel)
  have hrejects : Sample.tree.toDirectory.RejectsPassword "hpotter" (some "wrong") :=
    Directory.reply_eq_rejects_iff.mp (by decide +kernel)
  have habsent : Sample.emptyTree.toDirectory.findEntry "hpotter" (some "wrong") = .ok none := by
    decide +kernel
  have htrim : Text.trim "hpotter" = "hpotter" := by decide +kernel
  obtain ⟨hwhole, -⟩ := sameAnswer_iff Sample.moment hprobe
  obtain ⟨-, -, hpair⟩ := sameAnswer_iff Sample.moment sample_probe
  rw [htrim] at hpair
  obtain ⟨-, hbutCode, -⟩ := hpair hrejects habsent
  exact ⟨⟨hprobe, hwhole.mpr (.inr (.inl helsewhere))⟩, sample_probe,
    hbutCode.mpr (.inr (.inr sample_no_failure))⟩

/-- Of two portals only one has an entry of the name. Neither a server nor an account accepts the
password, and the code in the body tells which portal it is. -/
theorem form_discloses_names :
    Probe Sample.portal Sample.started Sample.wrongLogin ⟨"hpotter", "wrong"⟩
        Sample.tree.toDirectory Sample.emptyTree.toDirectory ∧
      (∃ e, Sample.tree.findEntry "hpotter" (some "wrong") = .ok (some e)) ∧
      Sample.emptyTree.findEntry "hpotter" (some "wrong") = .ok none ∧
      (∀ a ∈ Sample.started.service.store.accounts, a.acceptsPassword "wrong" = false) ∧
      ¬ SameAnswer
        ((Sample.portal.withServer Sample.tree.toDirectory).handle Sample.moment Sample.wrongLogin
          Sample.started).response
        ((Sample.portal.withServer Sample.emptyTree.toDirectory).handle Sample.moment
          Sample.wrongLogin Sample.started).response := by
  have hknown : ((Sample.portal.withServer Sample.tree.toDirectory).handle Sample.moment
      Sample.wrongLogin Sample.started).response =
        refusal Sample.settings .invalidCredentials :=
    sample_probe.response_of_error (f := .invalidCredentials) Sample.moment _ (by decide +kernel)
  have hunknown : ((Sample.portal.withServer Sample.emptyTree.toDirectory).handle Sample.moment
      Sample.wrongLogin Sample.started).response = refusal Sample.settings .notFound :=
    sample_probe.response_of_error (f := .notFound) Sample.moment _ (by decide +kernel)
  refine ⟨sample_probe, ⟨⟨"cn=hpotter,ou=people,dc=hogwarts,dc=edu", "hogwarts",
    [("uid", ["hpotter"])]⟩, by decide +kernel⟩, by decide +kernel, by decide +kernel, ?_⟩
  rw [hknown, hunknown, refusal_sameAnswer_iff (.inl rfl) (.inr (.inr rfl))]
  exact FailureKind.noConfusion

end DirectoryLogin
