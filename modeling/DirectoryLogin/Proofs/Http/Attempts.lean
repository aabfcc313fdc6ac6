import DirectoryLogin.Proofs.Http.Metrics
import DirectoryLogin.Proofs.Http.OwnerOnly
import DirectoryLogin.Proofs.Login.Newcomers
import DirectoryLogin.Proofs.Session.Membership

/-!
# The login attempts of a request

A request can log somebody in in three ways: by the page of the login form, by the page of single
sign-on, or by the single sign-on that the portal makes by itself before any page. The `log` of a
request names the attempts it makes and the calls on the session table, in their order.

* `log`: what a request does, told by its guards;
* `attempts_log_length`: one attempt at most;
* `Logged`, `handle_logged`: sessions, metrics and accounts are what the log makes of them;
* `fair_log`: a session is started for each attempt that succeeds, and for nothing else.
-/

namespace DirectoryLogin.Http.Portal

/-! ## Events -/

/-- A login attempt, or a call on the session table. -/
inductive Event
  | attempted (kind : LoginKind) (a : Attempt)
  | called (c : SessionTable.Call)

def Event.attempt? : Event → Option (LoginKind × Attempt)
  | attempted kind a => some (kind, a)
  | called _ => none

def Event.call? : Event → Option SessionTable.Call
  | attempted .. => none
  | called c => some c

def attempts (log : List Event) : List (LoginKind × Attempt) := log.filterMap Event.attempt?

def calls (log : List Event) : List SessionTable.Call := log.filterMap Event.call?

/-- The calls that start a session. -/
def creations (log : List Event) : List SessionTable.Call := (calls log).filter (·.newId?.isSome)

/-- The people whom the attempts logged in. -/
def outcomes (log : List Event) : List Outcome := (attempts log).filterMap (·.2.result.toOption)

/-- The word under which a result is counted. -/
def word : Except Failure Outcome → String
  | .ok _ => Metrics.successWord
  | .error f => f.kind.code

/-- The call that starts the session of a person. -/
def creation (m : Moment) (o : Outcome) : SessionTable.Call :=
  .create m.now m.freshId o.account.uid o.account.name o.method

/-! ## The log of a request -/

/-- An attempt, and the start of a session if it succeeds. -/
def settleLog (m : Moment) (kind : LoginKind) (a : Attempt) : List Event :=
  .attempted kind a :: (a.result.toOption.map fun o => .called (creation m o)).toList

/-- The cookie is looked up. -/
def lookLog (m : Moment) (r : Request) : List Event :=
  (Cookie.session? r).toList.map fun value => .called (.get m.now value)

/-- The portal tries single sign-on by itself. -/
def triesByItself (m : Moment) (r : Request) (s : State) : Bool :=
  !((s.sessionOf m r).1.isSome || asksForLogin r) &&
    SingleSignOn.runsByItself r.visit s.service.live.sso

/-- What the layer of single sign-on does. -/
def layerLog (p : Portal) (m : Moment) (r : Request) (s : State) : List Event :=
  lookLog m r ++
    if triesByItself m r s then
      settleLog m .seamlessSso (s.service.ssoLogin p.realm m.now r.visit)
    else []

/-- What a page does. -/
def routeLog (p : Portal) (m : Moment) (r : Request) (started : Option Session) (s : State) :
    Route → List Event
  | .login =>
    if r.method == "POST" && !r.isTooLong then
      match credentialsOf r with
      | .ok c => settleLog m .password (s.service.login p.realm m.now c.name c.password)
      | .error _ => []
    else []
  | .sso => if r.isRead then settleLog m .sso (s.service.ssoLogin p.realm m.now r.visit) else []
  | .logout =>
    if r.method == "POST" then
      (Cookie.session? r).toList.map fun value => .called (.remove value)
    else []
  | .session => if r.isRead && started.isNone then lookLog m r else []
  | _ => []

/-- What the page of the path does, if there is one. -/
def pageLog (p : Portal) (m : Moment) (r : Request) (started : Option Session) (s : State) :
    List Event :=
  (Route.ofPath? r.path).elim [] (p.routeLog m r started s)

/-- Takes over what an attempt leaves behind, and starts a session if it succeeded. -/
def State.settle (s : State) (m : Moment) (kind : LoginKind) (a : Attempt) :
    Option Session × State :=
  let s := s.record kind a
  match a.result with
  | .error _ => (none, s)
  | .ok o =>
    let (session, s) := s.startSession m o
    (some session, s)

/-- What the layer of single sign-on hands on to the page. -/
def handedOn (p : Portal) (m : Moment) (r : Request) (s : State) : Option Session × State :=
  let looked := (s.sessionOf m r).2
  if triesByItself m r s then
    looked.settle m .seamlessSso (s.service.ssoLogin p.realm m.now r.visit)
  else (none, looked)

/-- All that a request does. -/
def log (p : Portal) (m : Moment) (r : Request) (s : State) : List Event :=
  let (started, handed) := p.handedOn m r s
  p.layerLog m r s ++ p.pageLog m r started handed

variable {p : Portal} {m : Moment} {r : Request} {s s' s'' : State} {started : Option Session}
  {log log' : List Event}

@[simp]
theorem attempts_append (log log' : List Event) :
    attempts (log ++ log') = attempts log ++ attempts log' := List.filterMap_append

@[simp]
theorem calls_append (log log' : List Event) : calls (log ++ log') = calls log ++ calls log' :=
  List.filterMap_append

@[simp]
theorem creations_append (log log' : List Event) :
    creations (log ++ log') = creations log ++ creations log' := by
  rw [creations, calls_append, List.filter_append]
  rfl

@[simp]
theorem outcomes_append (log log' : List Event) :
    outcomes (log ++ log') = outcomes log ++ outcomes log' := by
  rw [outcomes, attempts_append, List.filterMap_append]
  rfl

theorem attempts_settleLog (m : Moment) (kind : LoginKind) (a : Attempt) :
    attempts (settleLog m kind a) = [(kind, a)] := by
  unfold settleLog
  cases a.result.toOption <;> rfl

theorem attempts_lookLog (m : Moment) (r : Request) : attempts (lookLog m r) = [] := by
  unfold lookLog
  cases Cookie.session? r <;> rfl

theorem outcomes_settleLog (m : Moment) (kind : LoginKind) (a : Attempt) :
    outcomes (settleLog m kind a) = a.result.toOption.toList := by
  rw [outcomes, attempts_settleLog]
  cases h : a.result.toOption <;> simp [h]

theorem creations_settleLog (m : Moment) (kind : LoginKind) (a : Attempt) :
    creations (settleLog m kind a) = (outcomes (settleLog m kind a)).map (creation m) := by
  rw [outcomes_settleLog, settleLog]
  cases a.result.toOption <;> rfl

/-! ## One attempt at most -/

theorem loginPath_of_login (h : Route.ofPath? r.path = some .login) : r.path = loginPath :=
  (path_of_route h).trans (by decide +kernel)

theorem ssoPath_of_sso (h : Route.ofPath? r.path = some .sso) : r.path = ssoPath :=
  (path_of_route h).trans (by decide +kernel)

theorem attempts_routeLog_length (p : Portal) (m : Moment) (started : Option Session) (s : State)
    {route : Route} (h : Route.ofPath? r.path = some route) :
    (attempts (p.routeLog m r started s route)).length ≤ if asksForLogin r then 1 else 0 := by
  cases route with
  | login =>
    simp only [routeLog]
    split
    · rename_i hpost
      have hasks : asksForLogin r = true := by
        simp only [Bool.and_eq_true] at hpost
        simp [asksForLogin, loginPath_of_login h, hpost.1]
      rw [if_pos hasks]
      split
      · rw [attempts_settleLog]
        exact Nat.le_refl 1
      · exact Nat.zero_le 1
    · exact Nat.zero_le _
  | sso =>
    have hasks : asksForLogin r = true := by simp [asksForLogin, ssoPath_of_sso h]
    simp only [routeLog, hasks, if_true]
    split
    · rw [attempts_settleLog]
      exact Nat.le_refl 1
    · exact Nat.zero_le 1
  | logout =>
    simp only [routeLog]
    split
    · cases Cookie.session? r <;> exact Nat.zero_le _
    · exact Nat.zero_le _
  | session =>
    simp only [routeLog]
    split
    · rw [attempts_lookLog]
      exact Nat.zero_le _
    · exact Nat.zero_le _
  | metrics | health | settings | servers | serverTest | accounts => exact Nat.zero_le _

theorem attempts_pageLog_length (p : Portal) (m : Moment) (r : Request) (started : Option Session)
    (s : State) :
    (attempts (p.pageLog m r started s)).length ≤ if asksForLogin r then 1 else 0 := by
  unfold pageLog
  cases h : Route.ofPath? r.path with
  | none => exact Nat.zero_le _
  | some route => exact attempts_routeLog_length p m started s h

/-- The portal tries single sign-on by itself only where the page does not. -/
theorem attempts_log_length (p : Portal) (m : Moment) (r : Request) (s : State) :
    (attempts (p.log m r s)).length ≤ 1 := by
  have hpage := attempts_pageLog_length p m r (p.handedOn m r s).1 (p.handedOn m r s).2
  rw [log, attempts_append, layerLog, attempts_append, attempts_lookLog, List.nil_append,
    List.length_append]
  cases htries : triesByItself m r s with
  | true =>
    have hasks : asksForLogin r = false := by
      simp only [triesByItself, Bool.and_eq_true, Bool.not_eq_true', Bool.or_eq_false_iff] at htries
      exact htries.1.2
    rw [hasks] at hpage
    simp only [if_true, attempts_settleLog, List.length_singleton]
    exact Nat.add_le_add_left hpage 1
  | false =>
    refine (Nat.zero_add _).trans_le (hpage.trans ?_)
    split <;> omega

/-! ## Sessions started -/

/-- A log is fair if it starts a session for each attempt that succeeds and no other, and looks at
no cookie but that of the request. -/
structure Fair (m : Moment) (r : Request) (log : List Event) : Prop where
  started : creations log = (outcomes log).map (creation m)
  cookie : ∀ c ∈ calls log, ∀ value, c.value? = some value → Cookie.session? r = some value

namespace Fair

theorem nil (m : Moment) (r : Request) : Fair m r [] := ⟨rfl, nofun⟩

theorem append (h : Fair m r log) (h' : Fair m r log') : Fair m r (log ++ log') where
  started := by rw [creations_append, outcomes_append, List.map_append, h.started, h'.started]
  cookie := by
    rw [calls_append]
    exact List.forall_mem_append.mpr ⟨h.cookie, h'.cookie⟩

theorem settleLog (m : Moment) (r : Request) (kind : LoginKind) (a : Attempt) :
    Fair m r (settleLog m kind a) where
  started := creations_settleLog m kind a
  cookie c hc value hvalue := by
    unfold Portal.settleLog at hc
    cases hresult : a.result.toOption with
    | none => simp [hresult, calls, Event.call?] at hc
    | some o =>
      obtain rfl : creation m o = c := by simpa [hresult, calls, Event.call?] using hc
      cases hvalue

/-- A call on the session of the cookie. -/
theorem called (m : Moment) (r : Request) {call : String → SessionTable.Call}
    (hnew : ∀ value, (call value).newId? = none)
    (hvalue : ∀ value, (call value).value? = some value) :
    Fair m r ((Cookie.session? r).toList.map fun value => .called (call value)) := by
  cases hcookie : Cookie.session? r with
  | none => exact ⟨rfl, nofun⟩
  | some value =>
    refine ⟨?_, fun c hc value' hvalue' => ?_⟩
    · simp [creations, outcomes, calls, attempts, Event.call?, Event.attempt?, hnew]
    · obtain rfl : c = call value := by simpa [calls, Event.call?] using hc
      exact hcookie.trans ((hvalue value).symm.trans hvalue')

theorem lookLog (m : Moment) (r : Request) : Fair m r (lookLog m r) :=
  called m r (fun _ => rfl) fun _ => rfl

end Fair

theorem fair_routeLog (p : Portal) (m : Moment) (r : Request) (started : Option Session)
    (s : State) (route : Route) : Fair m r (p.routeLog m r started s route) := by
  cases route with
  | login =>
    simp only [routeLog]
    split
    · split
      · exact .settleLog m r _ _
      · exact .nil m r
    · exact .nil m r
  | sso =>
    simp only [routeLog]
    split
    · exact .settleLog m r _ _
    · exact .nil m r
  | logout =>
    simp only [routeLog]
    split
    · exact .called m r (fun _ => rfl) fun _ => rfl
    · exact .nil m r
  | session =>
    simp only [routeLog]
    split
    · exact .lookLog m r
    · exact .nil m r
  | metrics | health | settings | servers | serverTest | accounts => exact .nil m r

/-- A request starts a session for each attempt that succeeds, and for nothing else. -/
theorem fair_log (p : Portal) (m : Moment) (r : Request) (s : State) :
    Fair m r (p.log m r s) := by
  have hlayer : Fair m r (p.layerLog m r s) := by
    refine (Fair.lookLog m r).append ?_
    split
    · exact .settleLog m r _ _
    · exact .nil m r
  refine hlayer.append ?_
  unfold pageLog
  cases Route.ofPath? r.path with
  | none => exact .nil m r
  | some route => exact fair_routeLog p m r _ _ route

/-! ## Counts -/

/-- The name of all series of login attempts. -/
def attemptsName : String := "ldapgate_login_attempts_total"

/-- The metrics are those of before with the attempts counted. -/
structure Counted (before after : Metrics) (as : List (LoginKind × Attempt)) : Prop where
  /-- Each attempt is counted once, under its kind and the word for its result. -/
  logins : ∀ kind w, after.value (.logins kind w) =
    before.value (.logins kind w) + as.countP fun x => x.1 == kind && word x.2.result == w
  provisioned : after.value .provisioned =
    before.value .provisioned + as.countP fun x => makes x.2.result
  distinct : before.Distinct → after.Distinct
  total : before.Distinct → after.total attemptsName = before.total attemptsName + as.length

namespace Counted

variable {x y z : Metrics} {as as' : List (LoginKind × Attempt)}

theorem refl (x : Metrics) : Counted x x [] := ⟨fun _ _ => rfl, rfl, id, fun _ => rfl⟩

theorem trans (h : Counted x y as) (h' : Counted y z as') : Counted x z (as ++ as') where
  logins kind w := by rw [h'.logins, h.logins, List.countP_append, Nat.add_assoc]
  provisioned := by rw [h'.provisioned, h.provisioned, List.countP_append, Nat.add_assoc]
  distinct hx := h'.distinct (h.distinct hx)
  total hx := by rw [h'.total (h.distinct hx), h.total hx, List.length_append, Nat.add_assoc]

/-- Other series may change. -/
theorem set (x : Metrics) {t : Series} (hname : t.name ≠ attemptsName) (hmade : t ≠ .provisioned)
    (n : Nat) : Counted x (x.set t n) [] where
  logins kind w := by
    have ht : Series.logins kind w ≠ t := fun he => hname (he ▸ rfl)
    simp [ht]
  provisioned := by simp [Ne.symm hmade]
  distinct hx := hx.set t n
  total hx := Metrics.total_set_of_ne hx hname n

theorem countLogin (s : State) (kind : LoginKind) (a : Attempt) :
    Counted s.metrics (s.countLogin kind a.result).metrics [(kind, a)] := by
  have hmetrics : (s.countLogin kind a.result).metrics =
      if makes a.result then (s.metrics.login kind (word a.result)).bump .provisioned
      else s.metrics.login kind (word a.result) := by
    unfold State.countLogin
    cases a.result <;> rfl
  rw [hmetrics, Metrics.login]
  have hother : (Series.loginDurations kind).name ≠ attemptsName := by
    simp [Series.name, attemptsName]
  refine ⟨fun k w => ?_, ?_, fun hx => ?_, fun hx => ?_⟩
  · have hcount : [(kind, a)].countP (fun x => x.1 == k && word x.2.result == w) =
        if Series.logins k w = .logins kind (word a.result) then 1 else 0 := by
      rw [List.countP_singleton]
      refine if_congr ?_ rfl rfl
      simp only [Bool.and_eq_true, beq_iff_eq, Series.logins.injEq]
      exact ⟨fun h => ⟨h.1.symm, h.2.symm⟩, fun h => ⟨h.1.symm, h.2.symm⟩⟩
    rw [hcount]
    split <;> simp
  · cases hmade : makes a.result <;> simp [hmade]
  · split
    · exact ((hx.bump _).bump _).bump _
    · exact (hx.bump _).bump _
  · have htotal : ((s.metrics.bump (.logins kind (word a.result))).bump
        (.loginDurations kind)).total attemptsName = s.metrics.total attemptsName + 1 := by
      rw [Metrics.total_bump (hx.bump _), Metrics.total_bump hx, if_neg hother]
      simp [Series.name, attemptsName]
    split
    · rw [Metrics.total_bump ((hx.bump _).bump _), htotal]
      simp [Series.name, attemptsName]
    · exact htotal

end Counted

/-! ## What the log says of the state -/

/-- What logins change in a store. -/
def held (s : Store) : List Account × List Authmap := (s.accounts, s.authmaps)

/-- The second state comes from the first one by what the log says. -/
structure Logged (clock : Prop) (s s' : State) (log : List Event) : Prop where
  sessions : s'.sessions = s.sessions.after (calls log)
  counted : Counted s.metrics s'.metrics (attempts log)
  /-- The accounts and links are those that the last attempt leaves, if there is one. -/
  left : held s'.service.store =
    (attempts log).foldl (fun _ x => held x.2.store) (held s.service.store)
  /-- Where the clock can be read back, accounts are added by attempts that tell of them. -/
  accounts : clock → s'.service.store.accounts.length =
    s.service.store.accounts.length + (attempts log).countP fun x => makes x.2.result

namespace Logged

variable {clock clock' : Prop}

theorem mono (h : Logged clock s s' log) (hclock : clock' → clock) : Logged clock' s s' log :=
  { h with accounts := fun hc => h.accounts (hclock hc) }

theorem trans (h : Logged clock s s' log) (h' : Logged clock s' s'' log') :
    Logged clock s s'' (log ++ log') where
  sessions := by
    rw [h'.sessions, h.sessions, calls_append]
    exact List.foldl_append.symm
  counted := by
    rw [attempts_append]
    exact h.counted.trans h'.counted
  left := by rw [h'.left, h.left, attempts_append, List.foldl_append]
  accounts hclock := by
    rw [h'.accounts hclock, h.accounts hclock, attempts_append, List.countP_append, Nat.add_assoc]

/-- Nothing that is logged has happened. -/
theorem quiet (hsessions : s'.sessions = s.sessions) (hmetrics : s'.metrics = s.metrics)
    (hheld : held s'.service.store = held s.service.store) : Logged clock s s' [] where
  sessions := hsessions
  counted := hmetrics ▸ .refl s.metrics
  left := hheld
  accounts _ := congrArg (·.1.length) hheld

theorem refl (clock : Prop) (s : State) : Logged clock s s [] := .quiet rfl rfl rfl

/-- Values of other series are not logged. -/
theorem set (h : Logged clock s s' log) {t : Series} (hname : t.name ≠ attemptsName)
    (hmade : t ≠ .provisioned) (n : Nat) :
    Logged clock s { s' with metrics := s'.metrics.set t n } log where
  sessions := h.sessions
  counted := by
    have hset := h.counted.trans (.set s'.metrics hname hmade n)
    rwa [List.append_nil] at hset
  left := h.left
  accounts := h.accounts

theorem countSessions (h : Logged clock s s' log) (now : Time.Instant) :
    Logged clock s (s'.countSessions now) log :=
  h.set (t := .activeSessions) (by simp [Series.name, attemptsName]) nofun _

theorem countRequest (h : Logged clock s s' log) (method : String) (status : Nat) :
    Logged clock s { s' with metrics := s'.metrics.request method status } log :=
  (h.set (t := .requests method status) (by simp [Series.name, attemptsName]) nofun _).set
    (t := .requestDurations method) (by simp [Series.name, attemptsName]) nofun _

end Logged

theorem sessionOf_logged (clock : Prop) (m : Moment) (r : Request) (s : State) :
    Logged clock s (s.sessionOf m r).2 (lookLog m r) := by
  unfold State.sessionOf lookLog
  cases Cookie.session? r with
  | none => exact .refl clock s
  | some value => exact ⟨rfl, .refl s.metrics, rfl, fun _ => rfl⟩

variable {q : LoginRequest} {a : Attempt}

theorem record_logged (kind : LoginKind)
    (ha : a = q.attempt p.realm s.service.live m.now s.service.store) :
    Logged (Time.fourDigitYear m.now = true) s (s.record kind a) [.attempted kind a] where
  sessions := record_sessions s kind a
  counted := .countLogin { s with service := { s.service with store := a.store } } kind a
  left := by
    rw [record_service]
    rfl
  accounts hnow := by
    rw [record_service, ha]
    refine (q.attempt_accounts_length p.realm s.service.live s.service.store hnow).trans ?_
    exact congrArg (s.service.store.accounts.length + ·) List.countP_singleton.symm

/-- The session of a person is started, and the gauge of sessions follows. -/
theorem startSession_logged (clock : Prop) (m : Moment) (s : State) (o : Outcome) :
    Logged clock s (s.startSession m o).2 [.called (creation m o)] := by
  have hcreated : Logged clock s { s with sessions := s.sessions.perform (creation m o) }
      [.called (creation m o)] := ⟨rfl, .refl s.metrics, rfl, fun _ => rfl⟩
  exact hcreated.countSessions m.now

theorem settle_logged (kind : LoginKind)
    (ha : a = q.attempt p.realm s.service.live m.now s.service.store) :
    Logged (Time.fourDigitYear m.now = true) s (s.settle m kind a).2 (settleLog m kind a) := by
  have hrecorded := record_logged kind ha
  unfold State.settle settleLog
  cases a.result with
  | error f => exact hrecorded
  | ok o => exact hrecorded.trans (startSession_logged _ m (s.record kind a) o)

/-! ## Pages and layers -/

theorem finishLogin_state (p : Portal) (m : Moment) (kind : LoginKind) (a : Attempt) (s : State) :
    (p.finishLogin m kind a s).state = (s.settle m kind a).2 := by
  unfold finishLogin State.settle
  cases a.result <;> rfl

/-- Adds the cookie of the session that was started, if one was. -/
def withCookie (p : Portal) (handed : Option Session × State) (response : Response) : Response :=
  handed.1.elim response fun session => response.addCookie (p.cookieOf handed.2 session)

theorem attemptThen_eq (p : Portal) (m : Moment) (r : Request) (s : State)
    (next : Option Session → State → Exchange) :
    let a := s.service.ssoLogin p.realm m.now r.visit
    let settled := s.settle m .seamlessSso a
    p.attemptThen m r s next =
      ((next settled.1 settled.2).mapResponse (p.withCookie settled)).after a.questions := by
  cases hresult : (s.service.ssoLogin p.realm m.now r.visit).result with
  | error f =>
    simp only [attemptThen, State.settle, hresult]
    rfl
  | ok o =>
    simp only [attemptThen, State.settle, hresult]
    rfl

/-- The layer of single sign-on hands the request on to the page and adds the cookie of the session
that it started. -/
theorem seamless_eq (p : Portal) (m : Moment) (r : Request) (s : State)
    (next : Option Session → State → Exchange) :
    let handed := p.handedOn m r s
    ∃ questions, p.seamless m r s next =
      ((next handed.1 handed.2).mapResponse (p.withCookie handed)).after questions := by
  have hservice := sessionOf_service s m r
  unfold seamless handedOn triesByItself
  dsimp only
  generalize (s.sessionOf m r).1 = live
  generalize (s.sessionOf m r).2 = looked at hservice
  rw [← hservice]
  by_cases hpassed : live.isSome || asksForLogin r
  · simp only [hpassed, if_true, Bool.not_true, Bool.false_and, Bool.false_eq_true, if_false]
    exact ⟨[], rfl⟩
  · simp only [hpassed, Bool.not_false, Bool.true_and, Bool.false_eq_true, if_false]
    split
    · exact ⟨_, attemptThen_eq p m r looked next⟩
    · exact ⟨[], rfl⟩

theorem seamless_state (p : Portal) (m : Moment) (r : Request) (s : State)
    (next : Option Session → State → Exchange) :
    (p.seamless m r s next).state = (next (p.handedOn m r s).1 (p.handedOn m r s).2).state := by
  obtain ⟨questions, h⟩ := seamless_eq p m r s next
  rw [h]
  rfl

theorem seamless_response (p : Portal) (m : Moment) (r : Request) (s : State)
    (next : Option Session → State → Exchange) :
    (p.seamless m r s next).response = p.withCookie (p.handedOn m r s)
      (next (p.handedOn m r s).1 (p.handedOn m r s).2).response := by
  obtain ⟨questions, h⟩ := seamless_eq p m r s next
  rw [h]
  rfl

theorem layer_logged (p : Portal) (m : Moment) (r : Request) (s : State) :
    Logged (Time.fourDigitYear m.now = true) s (p.handedOn m r s).2 (p.layerLog m r s) := by
  have hlooked := sessionOf_logged (Time.fourDigitYear m.now = true) m r s
  have hservice := sessionOf_service s m r
  unfold handedOn layerLog
  split
  · refine hlooked.trans (settle_logged (p := p) (q := .singleSignOn r.visit) .seamlessSso ?_)
    rw [hservice]
    rfl
  · rwa [List.append_nil]

theorem logout_logged (clock : Prop) (m : Moment) (r : Request) (s : State) :
    Logged clock s (logout m r s).state
      ((Cookie.session? r).toList.map fun value => .called (.remove value)) := by
  unfold logout
  cases Cookie.session? r with
  | none => exact (Logged.refl clock s).countSessions m.now
  | some value =>
    have hremoved : Logged clock s { s with sessions := s.sessions.perform (.remove value) }
        [.called (.remove value)] := ⟨rfl, .refl s.metrics, rfl, fun _ => rfl⟩
    exact hremoved.countSessions m.now

theorem currentSession_logged (clock : Prop) (m : Moment) (r : Request) (started : Option Session)
    (s : State) :
    Logged clock s (currentSession m r started s).state
      (if started.isNone then lookLog m r else []) := by
  have hlooked := sessionOf_logged clock m r s
  unfold currentSession
  cases started with
  | some session => exact .refl clock s
  | none =>
    generalize s.sessionOf m r = looked at hlooked
    obtain ⟨session, s'⟩ := looked
    cases session <;> exact hlooked

theorem held_update (r : Realm) (s : Service) (c : Settings.Authentication) :
    held (s.update r c).2.store = held s.store := by
  unfold Service.update
  split <;> rfl

theorem changeSettings_quiet (clock : Prop) (p : Portal) (r : Request) (s : State) :
    Logged clock s (p.changeSettings r s).state [] := by
  unfold changeSettings
  split
  · exact .refl clock s
  · rename_i form _
    have hheld := held_update p.realm s.service (form.toSettings s.service.live)
    dsimp only
    generalize s.service.update p.realm _ = updated at hheld ⊢
    obtain ⟨result, service⟩ := updated
    cases result <;> exact .quiet rfl rfl hheld

theorem answer_logged (p : Portal) (m : Moment) (r : Request) (started : Option Session) (s : State)
    (route : Route) :
    Logged (Time.fourDigitYear m.now = true) s (p.answer m r started s route).state
      (p.routeLog m r started s route) := by
  cases route with
  | login =>
    simp only [answer, routeLog, passwordLogin]
    by_cases hpost : r.method == "POST"
    · simp only [hpost, if_true, Bool.true_and]
      by_cases hlong : r.isTooLong
      · simp only [hlong, if_true, Bool.not_true, Bool.false_eq_true, if_false]
        exact .refl _ s
      · simp only [hlong, Bool.not_false, if_true, Bool.false_eq_true, if_false]
        cases credentialsOf r with
        | error message => exact .refl _ s
        | ok c =>
          rw [finishLogin_state]
          exact settle_logged (p := p) (q := .password c.name c.password) .password rfl
    · simp only [hpost, Bool.false_and, Bool.false_eq_true, if_false]
      exact .refl _ s
  | sso =>
    simp only [answer, routeLog, assertedLogin]
    split
    · rw [finishLogin_state]
      exact settle_logged (p := p) (q := .singleSignOn r.visit) .sso rfl
    · exact .refl _ s
  | logout =>
    simp only [answer, routeLog]
    split
    · exact logout_logged _ m r s
    · exact .refl _ s
  | session =>
    simp only [answer, routeLog]
    by_cases hread : r.isRead
    · simpa only [hread, if_true, Bool.true_and] using currentSession_logged _ m r started s
    · simp only [hread, Bool.false_and, Bool.false_eq_true, if_false]
      exact .refl _ s
  | settings =>
    simp only [answer]
    split
    · exact .refl _ s
    · split
      · exact changeSettings_quiet _ p r s
      · exact .refl _ s
  | serverTest encodedSid =>
    simp only [answer]
    split
    · split
      · exact .refl _ s
      · rw [testServer_state]
        exact .refl _ s
    · exact .refl _ s
  | accounts =>
    simp only [answer]
    split
    · rw [showAccounts_state]
      exact .refl _ s
    · exact .refl _ s
  | metrics | health | servers =>
    simp only [answer]
    split <;> exact .refl _ s

theorem page_logged (p : Portal) (m : Moment) (r : Request) (started : Option Session) (s : State) :
    Logged (Time.fourDigitYear m.now = true) s (p.serve m r started s).state
      (p.pageLog m r started s) := by
  unfold serve pageLog
  cases Route.ofPath? r.path with
  | none => exact .refl _ s
  | some route =>
    dsimp only
    split
    · rename_i hrefused
      have hquiet : p.routeLog m r started s route = [] := by
        simp only [Bool.and_eq_true] at hrefused
        cases route <;> first | rfl | cases hrefused.1
      rw [Option.elim_some, hquiet]
      exact .refl _ s
    · exact answer_logged p m r started s route

/-- Sessions, metrics and accounts are what the log of the request makes of them. -/
theorem handle_logged (p : Portal) (m : Moment) (r : Request) (s : State) :
    Logged (Time.fourDigitYear m.now = true) s (p.handle m r s).state (p.log m r s) := by
  have hpage := page_logged p m r (p.handedOn m r s).1 (p.handedOn m r s).2
  rw [← seamless_state] at hpage
  exact ((layer_logged p m r s).trans hpage).countRequest r.method _

end DirectoryLogin.Http.Portal
