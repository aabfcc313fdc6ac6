import DirectoryLogin.Http.Router
import DirectoryLogin.Proofs.Login.Admission
import DirectoryLogin.Proofs.Login.History

/-!
# Runs of a portal

A request reaches the login service by a few turns of it: the single sign-on that the portal makes
by itself, and then what the page does.

* `Turns`: the service gets from one state to another by turns of a request;
* `handle_serves`: every request is answered by its page, in a state that the service gets to by
  turns;
* `handle_turns`: all that a request does to the service are turns;
* `Action` and `run_reachable`: runs in which requests, turns of the service, calls on its store
  and operations on the sessions come in any order.
-/

namespace DirectoryLogin.Http.Portal

open Service (Turn Operation)
open Settings (Authentication)
open Time (Instant)

variable {p : Portal} {m : Moment} {r : Request} {s : State}

/-! ## Turns -/

/-- The service gets to another state by turns in the realm of the portal, at the time of the
request. -/
def Turns (p : Portal) (m : Moment) (s s' : Service) : Prop :=
  ∃ ts : List Turn, (∀ t ∈ ts, t.realm = p.realm ∧ t.now = m.now) ∧ s' = s.after ts

namespace Turns

variable {s s' s'' : Service}

theorem refl (p : Portal) (m : Moment) (s : Service) : Turns p m s s :=
  ⟨[], fun _ ht => (nomatch ht), rfl⟩

theorem single (p : Portal) (m : Moment) (s : Service) (op : Operation) :
    Turns p m s (s.step ⟨p.realm, m.now, op⟩) :=
  ⟨[⟨p.realm, m.now, op⟩], by simp, rfl⟩

theorem trans (h : Turns p m s s') (h' : Turns p m s' s'') : Turns p m s s'' := by
  obtain ⟨ts, hts, rfl⟩ := h
  obtain ⟨ts', hts', rfl⟩ := h'
  exact ⟨ts ++ ts', List.forall_mem_append.mpr ⟨hts, hts'⟩, (s.after_append ts ts').symm⟩

theorem reachable (h : Turns p m s s') (hs : s.Reachable) : s'.Reachable := by
  obtain ⟨ts, -, rfl⟩ := h
  exact Service.after_invariant (fun s t hs => .turn s t hs) hs ts

end Turns

/-! ## Pages -/

theorem record_service (s : State) (kind : LoginKind) (a : Attempt) :
    (s.record kind a).service = { s.service with store := a.store } := by
  unfold State.record State.countLogin
  split <;> rfl

theorem record_sessions (s : State) (kind : LoginKind) (a : Attempt) :
    (s.record kind a).sessions = s.sessions := by
  unfold State.record State.countLogin
  split <;> rfl

theorem sessionOf_service (s : State) (m : Moment) (r : Request) :
    (s.sessionOf m r).2.service = s.service := by
  unfold State.sessionOf
  split <;> rfl

theorem finishLogin_turns (p : Portal) (m : Moment) (kind : LoginKind) (q : LoginRequest)
    (s : State) :
    Turns p m s.service
      (p.finishLogin m kind (q.attempt p.realm s.service.live m.now s.service.store)
        s).state.service := by
  have hturn := Turns.single p m s.service (.login q)
  unfold finishLogin
  dsimp only
  split
  · rwa [record_service]
  · show Turns p m s.service (State.record s kind _).service
    rwa [record_service]

theorem passwordLogin_turns (p : Portal) (m : Moment) (r : Request) (s : State) :
    Turns p m s.service (p.passwordLogin m r s).state.service := by
  unfold passwordLogin
  split
  · exact .refl p m _
  · split
    · exact .refl p m _
    · rename_i c _
      exact finishLogin_turns p m .password (.password c.name c.password) s

theorem logout_service (m : Moment) (r : Request) (s : State) :
    (logout m r s).state.service = s.service := by
  unfold logout
  split <;> rfl

theorem currentSession_service (m : Moment) (r : Request) (started : Option Session) (s : State) :
    (currentSession m r started s).state.service = s.service := by
  have hs := sessionOf_service s m r
  unfold currentSession
  split
  · rfl
  · split
    · rename_i h
      rwa [h] at hs
    · rename_i h
      rwa [h] at hs

theorem changeSettings_turns (p : Portal) (m : Moment) (r : Request) (s : State) :
    Turns p m s.service (p.changeSettings r s).state.service := by
  unfold changeSettings
  split
  · exact .refl p m _
  · rename_i form _
    have hturn := Turns.single p m s.service (.update (form.toSettings s.service.live))
    simp only [Service.step] at hturn
    dsimp only
    split
    · rename_i h
      rwa [h] at hturn
    · rename_i h
      rwa [h] at hturn

theorem testServer_state (p : Portal) (sid : String) (r : Request) (s : State) :
    (p.testServer sid r s).state = s := by
  unfold testServer
  split
  · rfl
  · split
    · rfl
    · split <;> rfl

theorem showAccounts_state (s : State) : (showAccounts s).state = s := by
  unfold showAccounts
  split <;> rfl

theorem answer_turns (p : Portal) (m : Moment) (r : Request) (started : Option Session) (s : State)
    (route : Route) : Turns p m s.service (p.answer m r started s route).state.service := by
  cases route with
  | login =>
    simp only [answer]
    split
    · exact passwordLogin_turns p m r s
    · exact .refl p m _
  | sso =>
    simp only [answer]
    split
    · exact finishLogin_turns p m .sso (.singleSignOn r.visit) s
    · exact .refl p m _
  | settings =>
    simp only [answer]
    split
    · exact .refl p m _
    · split
      · exact changeSettings_turns p m r s
      · exact .refl p m _
  | logout =>
    simp only [answer]
    split
    · rw [logout_service]
      exact .refl p m _
    · exact .refl p m _
  | session =>
    simp only [answer]
    split
    · rw [currentSession_service]
      exact .refl p m _
    · exact .refl p m _
  | serverTest encodedSid =>
    simp only [answer]
    split
    · split
      · exact .refl p m _
      · rw [testServer_state]
        exact .refl p m _
    · exact .refl p m _
  | accounts =>
    simp only [answer]
    split
    · rw [showAccounts_state]
      exact .refl p m _
    · exact .refl p m _
  | metrics | health | servers =>
    simp only [answer]
    split <;> exact .refl p m _

theorem serve_turns (p : Portal) (m : Moment) (r : Request) (started : Option Session) (s : State) :
    Turns p m s.service (p.serve m r started s).state.service := by
  unfold serve
  split
  · exact .refl p m _
  · split
    · exact .refl p m _
    · exact answer_turns p m r started s _

/-! ## Requests -/

/-- The exchange is that of a page in the state `s'`, cookies and questions aside. -/
structure Serves (p : Portal) (m : Moment) (s s' : State) (page e : Exchange) : Prop where
  turns : Turns p m s.service s'.service
  state : e.state = page.state
  status : e.response.status = page.response.status
  body : e.response.body = page.response.body

theorem attemptThen_serves (p : Portal) (m : Moment) (r : Request) (s : State)
    (next : Option Session → State → Exchange) :
    ∃ started s', Serves p m s s' (next started s') (p.attemptThen m r s next) := by
  have hturn : Turns p m s.service
      (s.record .seamlessSso (s.service.ssoLogin p.realm m.now r.visit)).service := by
    rw [record_service]
    exact .single p m s.service (.login (.singleSignOn r.visit))
  unfold attemptThen
  dsimp only
  generalize s.record .seamlessSso (s.service.ssoLogin p.realm m.now r.visit) = s₁ at hturn ⊢
  split
  · exact ⟨none, s₁, hturn, rfl, rfl, rfl⟩
  · rename_i o _
    exact ⟨some (s₁.startSession m o).1, (s₁.startSession m o).2, hturn, rfl, rfl, rfl⟩

/-- Behind the layer of single sign-on stands the page, with or without a session started. -/
theorem seamless_serves (p : Portal) (m : Moment) (r : Request) (s : State)
    (next : Option Session → State → Exchange) :
    ∃ started s', Serves p m s s' (next started s') (p.seamless m r s next) := by
  have hkept := sessionOf_service s m r
  unfold seamless
  dsimp only
  generalize (s.sessionOf m r).2 = s₁ at hkept ⊢
  have hturns : Turns p m s.service s₁.service := by
    rw [hkept]
    exact .refl p m s.service
  split
  · exact ⟨none, s₁, hturns, rfl, rfl, rfl⟩
  · split
    · obtain ⟨started, s', h⟩ := attemptThen_serves p m r s₁ next
      exact ⟨started, s', { h with turns := hturns.trans h.turns }⟩
    · exact ⟨none, s₁, hturns, rfl, rfl, rfl⟩

/-- Every request is answered by its page. Only a request for the headers loses the body. -/
theorem handle_serves (p : Portal) (m : Moment) (r : Request) (s : State) :
    ∃ started s', Turns p m s.service s'.service ∧
      (p.handle m r s).state.service = (p.serve m r started s').state.service ∧
      (p.handle m r s).response.status = (p.serve m r started s').response.status ∧
      (r.method ≠ "HEAD" →
        (p.handle m r s).response.body = (p.serve m r started s').response.body) := by
  obtain ⟨started, s', h⟩ := seamless_serves p m r s (p.serve m r)
  refine ⟨started, s', h.turns, ?_, ?_, fun hm => ?_⟩
  · rw [← h.state]
    rfl
  · rw [← h.status]
    show (fitMethod r _).status = _
    unfold fitMethod
    split <;> rfl
  · rw [← h.body]
    show (fitMethod r _).body = _
    simp [fitMethod, hm]

/-- A request does to the service what some turns do. -/
theorem handle_turns (p : Portal) (m : Moment) (r : Request) (s : State) :
    Turns p m s.service (p.handle m r s).state.service := by
  obtain ⟨started, s', hturns, hstate, -⟩ := handle_serves p m r s
  rw [hstate]
  exact hturns.trans (serve_turns p m r started s')

/-! ## Runs -/

/-- Something that happens to a portal: a request, or an operation on one of its parts. -/
inductive Action where
  | call (c : Store.Call)
  | turn (t : Turn)
  | createSession (now : Instant) (id : String) (uid : Int) (name : String) (method : LoginMethod)
  | getSession (now : Instant) (value : String)
  | removeSession (value : String)
  | request (p : Portal) (m : Moment) (r : Request)

namespace State

/-- The state after an action. -/
def act (s : State) : Action → State
  | .call c => { s with service := { s.service with store := (s.service.store.perform c).2 } }
  | .turn t => { s with service := s.service.step t }
  | .createSession now id uid name method =>
    { s with sessions := (s.sessions.create now id uid name method).2 }
  | .getSession now value => { s with sessions := (s.sessions.get now value).2 }
  | .removeSession value => { s with sessions := (s.sessions.remove value).2 }
  | .request p m r => (p.handle m r s).state

/-- The state after a run. -/
def run (s : State) (actions : List Action) : State := actions.foldl act s

/-- A state with neither accounts nor sessions. -/
def fresh (c : Authentication) (secret : String) (ttlSeconds : Nat) : State :=
  ⟨.start c, .empty secret ttlSeconds, .empty⟩

theorem act_reachable (h : s.service.Reachable) (a : Action) : (s.act a).service.Reachable := by
  cases a with
  | call c => exact .call s.service c h
  | turn t => exact .turn s.service t h
  | createSession | getSession | removeSession => exact h
  | request p m r => exact (handle_turns p m r s).reachable h

/-- Whatever happens to a portal, its service is one that turns and calls lead to. -/
theorem run_reachable (h : s.service.Reachable) (actions : List Action) :
    (s.run actions).service.Reachable := by
  induction actions generalizing s with
  | nil => exact h
  | cons a actions ih => exact ih (act_reachable h a)

end State

end DirectoryLogin.Http.Portal

/-! ## The portal of the sample site -/

namespace DirectoryLogin.Sample

open Http

def portal : Portal :=
  ⟨{ Settings.Site.default with authentication := settings }, realm, now, false⟩

def moment : Moment := ⟨now, "other"⟩

/-- The state after a run at the sample site. -/
def stateAfter (actions : List Portal.Action) : Portal.State :=
  (Portal.State.fresh settings "secret" 3600).run actions

end DirectoryLogin.Sample
