import DirectoryLogin.Proofs.Http.Attempts

/-!
# Sessions, accounts and counters balance

From the start of a portal, the counters say what has happened: so many sessions were started as
logins are counted as successful, and so many accounts were made as are counted as provisioned.

* `Accounted`: what holds of one request, `handle_accounted`;
* `State.log`, `afterRequests_logged`: the log of a run, and that it tells the state;
* `Balanced`, `start_balanced`: what holds of every run from the start.
-/

namespace DirectoryLogin

namespace Http.Portal

variable {p : Portal} {m : Moment} {r : Request} {s s' : State}

/-! ## One request -/

/-- The session that a person gets at a moment. -/
def sessionFor (s : State) (m : Moment) (o : Outcome) : Session :=
  ⟨m.freshId, o.account.uid, o.account.name, o.method, m.now, m.now.later s.sessions.lifetime⟩

/-- What a request is accounted for. -/
structure Accounted (p : Portal) (m : Moment) (r : Request) (s : State) : Prop where
  /-- It logs somebody in by at most one attempt. -/
  once : (attempts (p.log m r s)).length ≤ 1
  /-- Accounts and links are those that the attempt leaves, or the ones of before. -/
  left : held (p.handle m r s).state.service.store =
    (attempts (p.log m r s)).foldl (fun _ x => held x.2.store) (held s.service.store)
  /-- All series of attempts together grow by the number of attempts. -/
  total : (p.handle m r s).state.metrics.total attemptsName =
    s.metrics.total attemptsName + (attempts (p.log m r s)).length
  /-- Each attempt is counted under its kind and the word for its result. -/
  counted : Counted s.metrics (p.handle m r s).state.metrics (attempts (p.log m r s))
  /-- The table of sessions is what the logged calls make of it, and these start one session for
  each attempt that succeeded, with its uid, name and method, and no other. -/
  sessions : (p.handle m r s).state.sessions = s.sessions.after (calls (p.log m r s))
  created : creations (p.log m r s) = (outcomes (p.log m r s)).map (creation m)
  /-- A session of the table was there before or belongs to a person whom an attempt logged in. -/
  origin : ∀ x ∈ (p.handle m r s).state.sessions.sessions,
    x ∈ s.sessions.sessions ∨ ∃ o ∈ outcomes (p.log m r s), x = sessionFor s m o
  /-- That session is in the table, unless the request itself came with a cookie for its id. -/
  stored : (∀ value, Cookie.session? r = some value →
      SessionToken.verify? s.sessions.secret value ≠ some m.freshId) →
    ∀ o ∈ outcomes (p.log m r s), sessionFor s m o ∈ (p.handle m r s).state.sessions.sessions

/-- A session that a request starts is in the table in the end, since nothing else that the request
does gets at it. -/
theorem mem_of_outcome
    (hcookie : ∀ value, Cookie.session? r = some value →
      SessionToken.verify? s.sessions.secret value ≠ some m.freshId)
    {o : Outcome} (ho : o ∈ outcomes (p.log m r s)) :
    sessionFor s m o ∈ (s.sessions.after (calls (p.log m r s))).sessions := by
  have hfair := fair_log p m r s
  have hstarted : creation m o ∈ creations (p.log m r s) :=
    hfair.started ▸ List.mem_map_of_mem ho
  have hsingle : (creations (p.log m r s)).length ≤ 1 := by
    rw [hfair.started, List.length_map]
    exact (List.length_filterMap_le _ _).trans (attempts_log_length p m r s)
  obtain ⟨earlier, later, hcalls⟩ := List.append_of_mem (List.mem_filter.mp hstarted).1
  have hnone : ∀ c ∈ later, c.newId? = none := by
    rw [creations, hcalls, List.filter_append, List.length_append,
      List.filter_cons_of_pos (by rfl), List.length_cons] at hsingle
    have hlater : later.filter (·.newId?.isSome) = [] := List.length_eq_zero_iff.mp (by omega)
    intro c hc
    simpa using List.filter_eq_nil_iff.mp hlater c hc
  rw [hcalls, SessionTable.after, List.foldl_append, List.foldl_cons]
  refine SessionTable.mem_after_of_mem ?_ fun c hc hends => ?_
  · have hlifetime := SessionTable.after_lifetime s.sessions earlier
    refine List.mem_append_right _ (List.mem_singleton.mpr ?_)
    rw [sessionFor, ← hlifetime]
    rfl
  · have hmem : c ∈ calls (p.log m r s) := by simp [hcalls, hc]
    have hsecret := SessionTable.after_secret s.sessions earlier
    rw [SessionTable.perform_secret] at hends
    rcases hends.cases with ⟨now, id, -, hnew, -⟩ | ⟨value, hvalue, hverify⟩
    · rw [hnone c hc] at hnew
      cases hnew
    · exact hcookie value (hfair.cookie c hmem value hvalue) (hsecret ▸ hverify)

theorem origin_of_mem {x : Session}
    (hx : x ∈ (s.sessions.after (calls (p.log m r s))).sessions) :
    x ∈ s.sessions.sessions ∨ ∃ o ∈ outcomes (p.log m r s), x = sessionFor s m o := by
  refine (SessionTable.mem_after hx).imp_right ?_
  rintro ⟨c, hc, hsession⟩
  have hnew : c.newId?.isSome := by rw [SessionTable.Call.newId?_of_session? hsession]; rfl
  have hstarted : c ∈ creations (p.log m r s) := List.mem_filter.mpr ⟨hc, hnew⟩
  rw [(fair_log p m r s).started] at hstarted
  obtain ⟨o, ho, rfl⟩ := List.mem_map.mp hstarted
  exact ⟨o, ho, (Option.some.inj hsession).symm⟩

theorem handle_accounted (h : s.metrics.Distinct) (p : Portal) (m : Moment) (r : Request) :
    Accounted p m r s := by
  have hlogged := handle_logged p m r s
  refine ⟨attempts_log_length p m r s, hlogged.left, hlogged.counted.total h, hlogged.counted,
    hlogged.sessions, (fair_log p m r s).started, fun x hx => ?_, fun hcookie o ho => ?_⟩
  · rw [hlogged.sessions] at hx
    exact origin_of_mem hx
  · rw [hlogged.sessions]
    exact mem_of_outcome hcookie ho

/-! ## Runs -/

/-- All that the requests of a run do. -/
def State.log (s : State) : List (Portal × Moment × Request) → List Event
  | [] => []
  | (p, m, r) :: rest => p.log m r s ++ State.log (p.handle m r s).state rest

theorem afterRequests_logged (s : State) (requests : List (Portal × Moment × Request)) :
    Logged (∀ x ∈ requests, Time.fourDigitYear x.2.1.now = true) s (s.afterRequests requests)
      (s.log requests) := by
  induction requests generalizing s with
  | nil => exact .refl _ s
  | cons x rest ih =>
    obtain ⟨p, m, r⟩ := x
    have hrest := ih (p.handle m r s).state
    refine Logged.trans ((handle_logged p m r s).mono fun hclock => ?_)
      (hrest.mono fun hclock x hx => ?_)
    · exact hclock (p, m, r) List.mem_cons_self
    · exact hclock x (List.mem_cons_of_mem _ hx)

/-- In a run, too, there is one session for each attempt that succeeds. -/
theorem length_creations_log (s : State) (requests : List (Portal × Moment × Request)) :
    (creations (s.log requests)).length = (outcomes (s.log requests)).length := by
  induction requests generalizing s with
  | nil => rfl
  | cons x rest ih =>
    obtain ⟨p, m, r⟩ := x
    rw [State.log, creations_append, outcomes_append, List.length_append, List.length_append, ih,
      (fair_log p m r s).started, List.length_map]

/-- The successful attempts that are counted, of all kinds together. -/
def successes (x : Metrics) : Nat :=
  x.value (.logins .password Metrics.successWord) + x.value (.logins .sso Metrics.successWord) +
    x.value (.logins .seamlessSso Metrics.successWord)

/-- No failure is counted under the word for success. -/
theorem code_ne_successWord (k : FailureKind) : k.code ≠ Metrics.successWord := by
  cases k <;> decide

theorem length_outcomes (log : List Event) :
    (outcomes log).length =
      (attempts log).countP (fun x => x.1 == .password && word x.2.result == Metrics.successWord) +
        (attempts log).countP (fun x => x.1 == .sso && word x.2.result == Metrics.successWord) +
        (attempts log).countP
          (fun x => x.1 == .seamlessSso && word x.2.result == Metrics.successWord) := by
  unfold outcomes
  induction attempts log with
  | nil => rfl
  | cons x rest ih =>
    obtain ⟨kind, a⟩ := x
    simp only [List.filterMap_cons, List.countP_cons]
    cases hresult : a.result with
    | error f =>
      have hword : (word (.error f) == Metrics.successWord) = false :=
        beq_eq_false_iff_ne.mpr (code_ne_successWord f.kind)
      simpa [hword, Except.toOption] using ih
    | ok o =>
      have hword : (word (.ok o) == Metrics.successWord) = true := rfl
      have hlength := congrArg (· + 1) ih
      cases kind <;> simp [hword, Except.toOption] at hlength ⊢ <;> omega

/-- What holds of a run from a state in which nothing has been counted. -/
structure Balanced (s : State) (requests : List (Portal × Moment × Request)) : Prop where
  each : ∀ earlier p m r later, requests = earlier ++ (p, m, r) :: later →
    Accounted p m r (s.afterRequests earlier)
  /-- So many sessions were started as attempts are counted as successful. -/
  created : (creations (s.log requests)).length = successes (s.afterRequests requests).metrics
  /-- So many accounts were added as are counted, if the clock could always be read back. -/
  provisioned : (∀ x ∈ requests, Time.fourDigitYear x.2.1.now = true) →
    (s.afterRequests requests).service.store.accounts.length =
      s.service.store.accounts.length + (s.afterRequests requests).metrics.value .provisioned

theorem balanced (h : s.metrics = .empty) (requests : List (Portal × Moment × Request)) :
    Balanced s requests := by
  have hdistinct : s.metrics.Distinct := h ▸ Metrics.distinct_empty
  have hlogged := afterRequests_logged s requests
  refine ⟨fun earlier p m r later _ => ?_, ?_, fun hclock => ?_⟩
  · exact handle_accounted ((afterRequests_logged s earlier).counted.distinct hdistinct) p m r
  · rw [length_creations_log, length_outcomes, successes, hlogged.counted.logins,
      hlogged.counted.logins, hlogged.counted.logins, h]
    simp [Metrics.value, Metrics.empty]
  · rw [hlogged.accounts hclock, hlogged.counted.provisioned, h]
    simp [Metrics.value, Metrics.empty]

theorem start_metrics {site : Settings.Site} {registry : Registry} {store : Store}
    {now : Time.Instant} {salt : Digest.Bytes}
    (h : Portal.start site registry store now salt = .ok s) : s.metrics = .empty := by
  unfold Portal.start at h
  dsimp only at h
  split at h
  · cases h
  · cases h
    rfl

/-- From the start of a portal on any store, and whatever is requested, every request makes at most
one attempt, which is counted once and starts a session exactly if it succeeds, and the counters
tell how many sessions were started and how many accounts were made. -/
theorem start_balanced {site : Settings.Site} {registry : Registry} {store : Store}
    {now : Time.Instant} {salt : Digest.Bytes}
    (h : Portal.start site registry store now salt = .ok s)
    (requests : List (Portal × Moment × Request)) : Balanced s requests :=
  balanced (start_metrics h) requests

end Http.Portal

/-! ## Two logins at the sample site -/

open Http Http.Portal

namespace Sample

/-- A person logs in by the form and then by single sign-on. -/
def twoLogins : List (Portal × Moment × Request) :=
  [(portal, ⟨now, "first"⟩, ⟨"POST", ⟨"/user/login", none⟩, [], "name=hpotter&pass=pass"⟩),
    (portal, ⟨now, "second"⟩, ⟨"GET", ⟨"/user/login/sso", none⟩, [("remote_user", "hpotter")], ""⟩)]

/-- The state of the site after its start on an empty store. -/
def startedState : State :=
  ⟨(Service.start settings).step ⟨realm, now, .ensureSiteOwner [] "admin" none none⟩,
    .empty "" 28800, .empty⟩

end Sample

/-- The first login makes an account, and both start a session. -/
theorem sample_balanced :
    Portal.start Sample.portal.site Sample.realm.registry Store.empty Sample.now [] =
        .ok Sample.startedState ∧
      (∀ x ∈ Sample.twoLogins, Time.fourDigitYear x.2.1.now = true) ∧
      Balanced Sample.startedState Sample.twoLogins ∧
      successes (Sample.startedState.afterRequests Sample.twoLogins).metrics = 2 ∧
      (Sample.startedState.afterRequests Sample.twoLogins).metrics.value .provisioned = 1 := by
  have hstart : Portal.start Sample.portal.site Sample.realm.registry Store.empty Sample.now [] =
      .ok Sample.startedState := rfl
  refine ⟨hstart, by decide +kernel, start_balanced hstart Sample.twoLogins, ?_, ?_⟩
  · decide +kernel
  · decide +kernel

end DirectoryLogin
