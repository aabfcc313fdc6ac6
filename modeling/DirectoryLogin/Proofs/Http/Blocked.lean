import DirectoryLogin.Proofs.Http.Runs
import DirectoryLogin.Proofs.Login.Status

/-!
# Blocked accounts stay out

An account can be blocked at any time, also while somebody has a session with it. Logins look at
the status before they write, and the session page looks at it each time that it is asked for.

* `currentSession_ok`: the session page shows an account only if it is active by now;
* `blocked_stay_out`: what therefore holds after every run of a portal.
-/

namespace DirectoryLogin.Http.Portal

open Settings (Authentication)
open Time (Instant)

variable {p : Portal} {m : Moment} {r : Request} {s : State} {session : Session}
  {started : Option Session}

/-- The exchange shows a session with its account, which is stored and active in the state that
the exchange leaves behind. -/
def ShowsActive (e : Exchange) : Prop :=
  ∃ (session : Session) (a : Account), a.uid = session.uid ∧ a.status = .active ∧
    a ∈ e.state.service.store.accounts ∧
    e.state.service.store.status? session.uid = some .active ∧
    e.response.body =
      (Response.success (.object [("session", session.toJson), ("account", a.toJson)])).body

theorem showsActive_of_sessionResponse (h : (sessionResponse s session).status = 200) :
    ShowsActive (.reply (sessionResponse s session) s) := by
  cases ha : s.service.store.account session.uid with
  | error e =>
    simp only [sessionResponse, ha] at h
    cases h
  | ok found =>
    cases found with
    | none =>
      simp only [sessionResponse, ha] at h
      cases h
    | some a =>
      obtain ⟨hmem, huid⟩ := Store.account_eq_some ha
      cases hs : a.status with
      | blocked =>
        simp only [sessionResponse, ha, Account.isActive, hs] at h
        cases h
      | active =>
        refine ⟨session, a, huid, hs, hmem, ?_, ?_⟩
        · show s.service.store.status? session.uid = some .active
          rw [Store.status?, Store.readOptional_eq_some ha, ← hs]
          rfl
        · simp [Exchange.reply, sessionResponse, ha, Account.isActive, hs]

/-- The session page shows an account only if it is active by now. -/
theorem currentSession_ok (h : (currentSession m r started s).response.status = 200) :
    ShowsActive (currentSession m r started s) := by
  unfold currentSession at h ⊢
  split
  · exact showsActive_of_sessionResponse h
  · dsimp only at h
    split
    · rename_i heq
      rw [heq] at h
      cases h
    · rename_i heq
      rw [heq] at h
      exact showsActive_of_sessionResponse h

theorem serve_session (hm : r.method = "GET") (hp : r.path = "/user/session") :
    p.serve m r started s = currentSession m r started s := by
  have hroute : Route.ofPath? "/user/session" = some .session := by decide +kernel
  simp [serve, hp, hroute, Route.isProtected, answer, Request.isRead, hm]

theorem handle_session_ok (hm : r.method = "GET") (hp : r.path = "/user/session")
    (h : (p.handle m r s).response.status = 200) : ShowsActive (p.handle m r s) := by
  obtain ⟨started, s', -, hstate, hstatus, hbody⟩ := handle_serves p m r s
  rw [serve_session hm hp] at hstate hstatus hbody
  obtain ⟨session, a, huid, hs, hmem, hactive, hshown⟩ := currentSession_ok (hstatus ▸ h)
  have hget : r.method ≠ "HEAD" := by simp [hm]
  refine ⟨session, a, huid, hs, ?_, ?_, (hbody hget).trans hshown⟩
  · rwa [hstate]
  · rwa [hstate]

/-- With the cookie of a live session, the session page looks no further than the session and its
account. -/
theorem handle_session_live {value : String} (hm : r.method = "GET") (hp : r.path = "/user/session")
    (hc : Cookie.session? r = some value)
    (hs : s.sessions.get m.now value = (some session, s.sessions)) :
    (p.handle m r s).response = sessionResponse s session := by
  have hlive : s.sessionOf m r = (some session, s) := by
    simp [State.sessionOf, hc, hs]
  simp [handle, countRequest, Exchange.mapResponse, seamless, hlive, serve_session hm hp,
    currentSession, Exchange.reply, fitMethod, hm]

/-- Blocked accounts stay out of a portal. -/
structure KeepsBlockedOut (s : State) : Prop where
  /-- A login that succeeds gives an account whose stored status is active then, and was active
  before if the account existed. -/
  login : ∀ realm now (q : LoginRequest) o,
    (q.attempt realm s.service.live now s.service.store).result = .ok o →
      StaysActive o.account.uid s.service.store
        (q.attempt realm s.service.live now s.service.store).store
  /-- The session page answers with success only to show an account whose stored status is active
  at that moment, however old the session. -/
  session : ∀ (p : Portal) m (r : Request), r.method = "GET" → r.path = "/user/session" →
    (p.handle m r s).response.status = 200 → ShowsActive (p.handle m r s)

/-- Blocked accounts stay out after every run of a portal. -/
theorem blocked_stay_out (c : Authentication) (secret : String) (ttlSeconds : Nat)
    (actions : List Action) : KeepsBlockedOut ((State.fresh c secret ttlSeconds).run actions) where
  login _ _ _ _ ho :=
    LoginRequest.attempt_status (State.run_reachable (.start c) actions).wellFormed ho
  session _ _ _ hm hp h := handle_session_ok hm hp h

end DirectoryLogin.Http.Portal

/-! ## A session at the sample site -/

namespace DirectoryLogin

open Http Http.Portal

namespace Sample

/-- The person logs in and gets a session. -/
def sessionRun : List Action :=
  [.turn ⟨realm, now, .login (.password "hpotter" "pass")⟩,
    .createSession now "id" 2 "hpotter" (.directory "hogwarts")]

/-- After that, the person's account is blocked. -/
def blockedRun : List Action := sessionRun ++ [.call (.setStatus 2 .blocked)]

/-- The signed id of the session. -/
def token : String := "id.0da5b4052abdeb0bbd119978c49479893059d51a19522a70e4672259a6d720b5"

/-- The person looks at the session. -/
def sessionRequest : Request :=
  ⟨"GET", ⟨"/user/session", none⟩, [("cookie", "ldapgate_session=" ++ token)], ""⟩

def session : Session :=
  ⟨"id", 2, "hpotter", .directory "hogwarts", now, now.later 3600⟩

end Sample

theorem sample_session_response (actions : List Action)
    (h : (Sample.stateAfter actions).sessions = (Sample.stateAfter Sample.sessionRun).sessions) :
    (Sample.portal.handle Sample.moment Sample.sessionRequest
      (Sample.stateAfter actions)).response =
        sessionResponse (Sample.stateAfter actions) Sample.session := by
  have hcookie : Cookie.session? Sample.sessionRequest = some Sample.token := by
    decide +kernel
  have hget : (Sample.stateAfter Sample.sessionRun).sessions.get Sample.moment.now Sample.token =
      (some Sample.session, (Sample.stateAfter Sample.sessionRun).sessions) := by
    decide +kernel
  exact handle_session_live rfl rfl hcookie (by rw [h, hget])

/-- The person logs in to an account that is made, and the session is shown as long as the account
is active. When it is blocked, neither the session nor the password counts any more. -/
theorem sample_blocked_stays_out :
    (∃ o, (login Sample.realm Sample.settings Sample.now "hpotter" "pass" .empty).result = .ok o ∧
      StaysActive o.account.uid .empty
        (login Sample.realm Sample.settings Sample.now "hpotter" "pass" .empty).store) ∧
      (Sample.portal.handle Sample.moment Sample.sessionRequest
        (Sample.stateAfter Sample.sessionRun)).response.status = 200 ∧
      ShowsActive (Sample.portal.handle Sample.moment Sample.sessionRequest
        (Sample.stateAfter Sample.sessionRun)) ∧
      (Sample.portal.handle Sample.moment Sample.sessionRequest
        (Sample.stateAfter Sample.blockedRun)).response.status = 401 ∧
      ((Sample.stateAfter Sample.blockedRun).service.login Sample.realm Sample.now "hpotter"
        "pass").result = .error (.disallowed .blockedAccount) := by
  have hlogin : (login Sample.realm Sample.settings Sample.now "hpotter" "pass"
      .empty).result.isOk = true := by
    decide +kernel
  have hactive : (sessionResponse (Sample.stateAfter Sample.sessionRun) Sample.session).status =
      200 := by
    decide +kernel
  have hblocked : (sessionResponse (Sample.stateAfter Sample.blockedRun) Sample.session).status =
      401 := by
    decide +kernel
  have hshown : (Sample.portal.handle Sample.moment Sample.sessionRequest
      (Sample.stateAfter Sample.sessionRun)).response.status = 200 := by
    rw [sample_session_response Sample.sessionRun rfl]
    exact hactive
  refine ⟨?_, hshown, ?_, ?_, by decide +kernel⟩
  · cases ho : (login Sample.realm Sample.settings Sample.now "hpotter" "pass" .empty).result with
    | error f =>
      rw [ho] at hlogin
      cases hlogin
    | ok o =>
      exact ⟨o, rfl, (blocked_stay_out Sample.settings "secret" 3600 []).login Sample.realm
        Sample.now (.password "hpotter" "pass") o ho⟩
  · exact (blocked_stay_out Sample.settings "secret" 3600 Sample.sessionRun).session _ _ _ rfl rfl
      hshown
  · rw [sample_session_response Sample.blockedRun rfl]
    exact hblocked

end DirectoryLogin
