import DirectoryLogin.Proofs.Http.Blocked
import DirectoryLogin.Proofs.Session.Lifetime
import DirectoryLogin.Proofs.Text.Cuts

/-!
# Where single sign-on does not run by itself

Visitors are logged in without being asked, but not everywhere. What keeps single sign-on away is
said here without the code: a pattern matches a path (`MatchesPath`), a header names a host
(`NamesHost`), and `Exempt` lists the reasons.

* `pathMatches_iff`, `host_of_names`: the code finds patterns and hosts as they are meant;
* `seamless_of_exempt`: any one reason is enough for the request to be passed on as it came;
* `seamless_of_error`: an attempt that fails passes the request on without a session;
* `seamless_exclusions`: both together.
-/

namespace DirectoryLogin

open Http (Request)

/-! ## Patterns of paths -/

/-- What a pattern stands for, white space around it aside: up to a final `*` the beginning of a
path, else a path that may have more or fewer slashes at its end. -/
inductive MatchesPath (pattern path : String) : Prop
  | start (start rest : String) (hpattern : Text.trim pattern = start ++ "*")
      (hpath : path = start ++ rest)
  | whole (base : List Char) (i j : Nat) (hplain : ∀ start, Text.trim pattern ≠ start ++ "*")
      (hpath : path.toList = base ++ List.replicate i '/')
      (hpattern : (Text.trim pattern).toList = base ++ List.replicate j '/')

theorem pathMatches_iff {pattern path : String} :
    pathMatches pattern path = true ↔ MatchesPath pattern path := by
  cases hstar : Text.dropEnd? (Text.trim pattern) "*" with
  | some start =>
    have hpattern := Text.dropEnd?_eq_some_iff.mp hstar
    simp only [pathMatches, hstar, Text.startsWith_iff]
    constructor
    · rintro ⟨rest, hpath⟩
      exact .start start rest hpattern hpath
    · intro h
      cases h with
      | start start' rest hpattern' hpath =>
        have heq : start' = start :=
          Option.some.inj ((Text.dropEnd?_eq_some_iff.mpr hpattern').symm.trans hstar)
        exact ⟨rest, heq ▸ hpath⟩
      | whole base i j hplain _ _ => exact absurd hpattern (hplain start)
  | none =>
    have hplain : ∀ start, Text.trim pattern ≠ start ++ "*" := by
      intro start hpattern
      rw [Text.dropEnd?_eq_some_iff.mpr hpattern] at hstar
      cases hstar
    simp only [pathMatches, hstar, Bool.or_eq_true, beq_iff_eq, Text.dropTrailing_eq_iff]
    constructor
    · rintro (rfl | ⟨base, i, j, hpath, hpattern⟩)
      · exact .whole (Text.trim pattern).toList 0 0 hplain (by simp) (by simp)
      · exact .whole base i j hplain hpath hpattern
    · intro h
      cases h with
      | start start rest hpattern _ => exact absurd hpattern (hplain start)
      | whole base i j _ hpath hpattern => exact .inr ⟨base, i, j, hpath, hpattern⟩

/-! ## Hosts -/

/-- A host without a port: a name or an address without colons, or an address in brackets. -/
inductive IsHost (host : String) : Prop
  | plain (h : ':' ∉ host.toList)
  | bracketed (address : List Char) (h : host.toList = '[' :: (address ++ [']']))

/-- The value of a `Host` header names a host: in any letter case, with a decimal port or without
one, and white space aside. -/
inductive NamesHost (value host : String) : Prop
  | plain (hvalue : IsHost value)
      (hsame : Text.sameAscii (Text.trim host) (Text.trim value) = true)
  | withPort (name port : String) (hname : IsHost name) (hport : ∀ c ∈ port.toList, c.isDigit)
      (hvalue : value = name ++ ":" ++ port)
      (hsame : Text.sameAscii (Text.trim host) (Text.trim name) = true)

namespace Http.Request

/-- A bracket stands between the last colon of an address in brackets and its end, so nothing there
is taken for a port. -/
theorem dropPort_of_isHost {name : String} (h : IsHost name) : dropPort name = name := by
  cases hs : Text.splitLast? ':' name with
  | none => simp only [dropPort, hs]
  | some parts =>
    obtain ⟨start, port⟩ := parts
    have hcut := Text.eq_of_splitLast? hs
    cases h with
    | plain hplain => exact absurd (by simp [hcut]) hplain
    | bracketed address hbrackets =>
      have hbracket : ']' ∈ port.toList := by
        have hlast : (start.toList ++ ':' :: port.toList).getLast? = some ']' := by
          rw [← hcut, hbrackets, ← List.cons_append, List.getLast?_concat]
        rw [List.getLast?_append, List.getLast?_cons] at hlast
        cases hp : port.toList.getLast? with
        | none => simp [hp] at hlast
        | some c =>
          have hc : c = ']' := by simpa [hp] using hlast
          exact hc ▸ List.mem_of_getLast? hp
      have hdigits : port.toList.all Char.isDigit = false :=
        List.all_eq_false.mpr ⟨']', hbracket, by decide⟩
      simp only [dropPort, hs, hdigits, Bool.false_eq_true, ↓reduceIte]

theorem dropPort_of_port (name : String) {port : String} (h : ∀ c ∈ port.toList, c.isDigit) :
    dropPort (name ++ ":" ++ port) = name := by
  have hcolon : ':' ∉ port.toList := fun hc => absurd (h ':' hc) (by decide)
  have hsplit : Text.splitLast? ':' (name ++ ":" ++ port) = some (name, port) :=
    Text.splitLast?_append name hcolon
  simp only [dropPort, hsplit, List.all_eq_true.mpr h, ↓reduceIte]

theorem sameAscii_dropPort {value host : String} (h : NamesHost value host) :
    Text.sameAscii (Text.trim host) (Text.trim (dropPort value)) = true := by
  cases h with
  | plain hvalue hsame => rwa [dropPort_of_isHost hvalue]
  | withPort name port _ hport hvalue hsame => rwa [hvalue, dropPort_of_port name hport]

/-- The first `Host` header, readable or not. -/
def hostHeader? (r : Request) : Option String := (r.headers.find? (·.1 == "host")).map (·.2)

theorem host_of_names {r : Request} {value host : String} (hv : r.hostHeader? = some value)
    (hr : isReadable value = true) (h : NamesHost value host) :
    Text.sameAscii (Text.trim host) (Text.trim r.host) = true := by
  have hheader : r.header? "host" = some value := by
    simp only [header?]
    rw [← hostHeader?, hv, Option.filter_some, hr, if_pos rfl]
  have hhost : r.host = dropPort value := by simp [Request.host, hheader]
  rw [hhost]
  exact sameAscii_dropPort h

end Http.Request

namespace Http.Portal

variable {p : Portal} {m : Moment} {r : Request} {s : State}

/-! ## Reasons -/

/-- The reasons for which single sign-on does not run by itself. -/
inductive Exempt (m : Moment) (r : Request) (s : State) : Prop
  | session (value : String) (session : Session) (hc : Cookie.session? r = some value)
      (hlive : (s.sessions.get m.now value).1 = some session)
  | ssoPage (h : r.path = ssoPath)
  | loginForm (hp : r.path = loginPath) (hm : r.method = "POST")
  | disabled (h : s.service.live.sso.enabled = false)
  | off (h : s.service.live.sso.seamlessLogin = .off)
  | loginPathOnly (h : s.service.live.sso.seamlessLogin = .loginPathOnly)
      (hp : ∀ rest, r.path ≠ loginPath ++ rest)
  | path (pattern : String) (hmem : pattern ∈ s.service.live.sso.excludedPaths)
      (h : MatchesPath pattern r.path)
  | host (value host : String) (hv : r.hostHeader? = some value)
      (hr : Request.isReadable value = true) (hmem : host ∈ s.service.live.sso.excludedHosts)
      (h : NamesHost value host)

/-- The session and the two paths aside, every reason is one of the settings. -/
theorem Exempt.cases (h : Exempt m r s) :
    (s.sessionOf m r).1.isSome ∨ asksForLogin r = true ∨
      SingleSignOn.runsByItself r.visit s.service.live.sso = false := by
  cases h with
  | session value session hc hlive => exact .inl (by simp [State.sessionOf, hc, hlive])
  | ssoPage h => exact .inr (.inl (by simp [asksForLogin, h]))
  | loginForm hp hm => exact .inr (.inl (by simp [asksForLogin, hp, hm]))
  | disabled h => exact .inr (.inr (by simp [SingleSignOn.runsByItself, h]))
  | off h => exact .inr (.inr (by simp [SingleSignOn.runsByItself, h]))
  | loginPathOnly h hp =>
    have hstart : Text.startsWith r.visit.path loginPath = false := by
      rw [Bool.eq_false_iff, Ne, Text.startsWith_iff]
      exact not_exists.mpr hp
    exact .inr (.inr (by simp [SingleSignOn.runsByItself, h, hstart]))
  | path pattern hmem h =>
    have hexcluded : SingleSignOn.isExcluded r.visit s.service.live.sso = true :=
      Bool.or_eq_true_iff.mpr (.inr (List.any_eq_true.mpr ⟨pattern, hmem, pathMatches_iff.mpr h⟩))
    exact .inr (.inr (by simp [SingleSignOn.runsByItself, hexcluded]))
  | host value host hv hr hmem h =>
    have hexcluded : SingleSignOn.isExcluded r.visit s.service.live.sso = true :=
      Bool.or_eq_true_iff.mpr
        (.inl (List.any_eq_true.mpr ⟨host, hmem, Request.host_of_names hv hr h⟩))
    exact .inr (.inr (by simp [SingleSignOn.runsByItself, hexcluded]))

/-! ## Passing on -/

/-- Between the two states nobody has logged in: the accounts, the settings and the metrics are the
same, and no session is new. -/
structure Idle (s s' : State) : Prop where
  service : s'.service = s.service
  metrics : s'.metrics = s.metrics
  sessions : s'.sessions.sessions.Sublist s.sessions.sessions

/-- Whatever comes next answers for the whole: its response is the response, no question is asked
but its own, and it starts without a session, in a state in which nobody has logged in. -/
def PassesOn (p : Portal) (m : Moment) (r : Request) (s : State) : Prop :=
  ∃ s', Idle s s' ∧ ∀ next, p.seamless m r s next = next none s'

theorem idle_sessionOf (m : Moment) (r : Request) (s : State) : Idle s (s.sessionOf m r).2 where
  service := sessionOf_service s m r
  metrics := by
    unfold State.sessionOf
    split <;> rfl
  sessions := by
    unfold State.sessionOf
    split
    · exact List.Sublist.refl _
    · exact SessionTable.get_sublist s.sessions m.now _

theorem seamless_of_exempt (h : Exempt m r s) : PassesOn p m r s := by
  have hidle := idle_sessionOf m r s
  refine ⟨(s.sessionOf m r).2, hidle, fun next => ?_⟩
  rcases h.cases with hlive | hasks | hruns
  · simp [seamless, hlive]
  · simp [seamless, hasks]
  · simp [seamless, hidle.service, hruns]

/-! ## Attempts that fail -/

/-- A visitor whom single sign-on does not let in is passed on without a session, whether it was
tried or not. -/
theorem seamless_of_error {f : Failure}
    (h : (s.service.ssoLogin p.realm m.now r.visit).result = .error f) :
    ∃ s' questions, s'.sessions.sessions.Sublist s.sessions.sessions ∧
      ∀ next, p.seamless m r s next = (next none s').after questions := by
  have hidle := idle_sessionOf m r s
  by_cases hattempt : (s.sessionOf m r).1.isSome || asksForLogin r
  · exact ⟨(s.sessionOf m r).2, [], hidle.sessions, fun next => by
      simp only [seamless, hattempt, ↓reduceIte, Exchange.after, List.nil_append]⟩
  · cases hruns : SingleSignOn.runsByItself r.visit s.service.live.sso with
    | false =>
      exact ⟨(s.sessionOf m r).2, [], hidle.sessions, fun next => by
        simp [seamless, hattempt, hidle.service, hruns, Exchange.after]⟩
    | true =>
      refine ⟨(s.sessionOf m r).2.record .seamlessSso (s.service.ssoLogin p.realm m.now r.visit),
        (s.service.ssoLogin p.realm m.now r.visit).questions, ?_, fun next => ?_⟩
      · rw [record_sessions]
        exact hidle.sessions
      · simp [seamless, hattempt, hidle.service, hruns, attemptThen, h]

/-- Any one reason keeps single sign-on from running by itself, whatever the others say, and where
it runs and fails, the request is passed on without a session. -/
theorem seamless_exclusions (p : Portal) (m : Moment) (r : Request) (s : State) :
    (Exempt m r s → PassesOn p m r s) ∧
      ∀ f, (s.service.ssoLogin p.realm m.now r.visit).result = .error f →
        ∃ s' questions, s'.sessions.sessions.Sublist s.sessions.sessions ∧
          ∀ next, p.seamless m r s next = (next none s').after questions :=
  ⟨seamless_of_exempt, fun _ => seamless_of_error⟩

/-! ## Two requests that are not exempt -/

/-- The first `Host` header names an excluded host, whether it can be read as text or not. -/
def NamesExcludedHost (r : Request) (s : State) : Prop :=
  ∃ value host, r.hostHeader? = some value ∧ host ∈ s.service.live.sso.excludedHosts ∧
    NamesHost value host

/-- One of the session cookies, not only the last, is that of a live session. -/
def CarriesLiveSession (m : Moment) (r : Request) (s : State) : Prop :=
  ∃ value session, (sessionCookieName, value) ∈ Cookie.all r ∧
    (s.sessions.get m.now value).1 = some session

/-- A page that tells by its status whether it was started with a session. -/
def tellsLogin (started : Option Session) (s : State) : Exchange :=
  .reply (.ofStatus (if started.isSome then 200 else 401)) s

/-- Where single sign-on runs by itself and succeeds, the request is not passed on as it came. -/
theorem not_passesOn (hlive : (s.sessionOf m r).1 = none) (hasks : asksForLogin r = false)
    (hruns : SingleSignOn.runsByItself r.visit s.service.live.sso = true)
    (hok : (s.service.ssoLogin p.realm m.now r.visit).result.isOk = true) : ¬ PassesOn p m r s := by
  rintro ⟨s', -, hnext⟩
  have hstatus : (p.seamless m r s tellsLogin).response.status = 401 := by
    rw [hnext]
    rfl
  cases ho : (s.service.ssoLogin p.realm m.now r.visit).result with
  | error f =>
    rw [ho] at hok
    cases hok
  | ok o =>
    simp only [seamless, hlive, hasks, sessionOf_service, hruns, attemptThen, ho, Option.isSome_none,
      Bool.or_self, Bool.false_eq_true, ↓reduceIte] at hstatus
    cases hstatus

end Http.Portal

/-! ## Excluded hosts at the sample site -/

open Http Http.Portal

namespace Sample

/-- Single sign-on runs on every page, two hosts aside. -/
def seamlessSettings : Settings.Authentication :=
  { settings with
    sso := { settings.sso with
      seamlessLogin := .everyPage
      excludedHosts := ["Hogwarts.edu", "é"] } }

/-- The portal with the session of the person who logged in before. -/
def seamlessState : Portal.State :=
  { State.fresh seamlessSettings "secret" 3600 with sessions := (stateAfter sessionRun).sessions }

/-- A visit in the name of a person, with one more header. -/
def visitOf (name : String) (header : String × String) : Request :=
  ⟨"GET", ⟨"/user/session", none⟩, [header, ("remote_user", name)], ""⟩

/-- A header with the cookie of the live session and another one after it. -/
def twoCookies : String × String :=
  ("cookie", "ldapgate_session=" ++ token ++ "; ldapgate_session=other")

end Sample

/-- A visit to an excluded host is passed on, in another letter case and with a port. A visit
elsewhere in the name of nobody that the server knows is passed on without a session. -/
theorem sample_seamless_exclusions :
    PassesOn Sample.portal Sample.moment (Sample.visitOf "hpotter" ("host", "HOGWARTS.edu:8080"))
      Sample.seamlessState ∧
      (∃ f, (Sample.seamlessState.service.ssoLogin Sample.portal.realm Sample.moment.now
        (Sample.visitOf "dmalfoy" ("host", "hogwarts.net")).visit).result = .error f) ∧
      ∃ s' questions, s'.sessions.sessions.Sublist Sample.seamlessState.sessions.sessions ∧
        ∀ next, Sample.portal.seamless Sample.moment
          (Sample.visitOf "dmalfoy" ("host", "hogwarts.net")) Sample.seamlessState next =
            (next none s').after questions := by
  have hunknown : (Sample.seamlessState.service.ssoLogin Sample.portal.realm Sample.moment.now
      (Sample.visitOf "dmalfoy" ("host", "hogwarts.net")).visit).result.isOk = false := by
    decide +kernel
  refine ⟨?_, ?_⟩
  · refine (seamless_exclusions _ _ _ _).1 (.host "HOGWARTS.edu:8080" "Hogwarts.edu" rfl
      (by decide +kernel) (by decide) ?_)
    exact .withPort "HOGWARTS.edu" "8080" (.plain (by decide)) (List.all_eq_true.mp (by decide))
      (by decide) (by decide +kernel)
  · cases hf : (Sample.seamlessState.service.ssoLogin Sample.portal.realm Sample.moment.now
        (Sample.visitOf "dmalfoy" ("host", "hogwarts.net")).visit).result with
    | ok o =>
      rw [hf] at hunknown
      cases hunknown
    | error f => exact ⟨⟨f, rfl⟩, (seamless_exclusions _ _ _ _).2 f hf⟩

/-- A host that is not written in ASCII is not found in its header, and of two session cookies only
the last one counts. In both cases the visitor is logged in. -/
theorem sample_seamless_runs :
    (NamesExcludedHost (Sample.visitOf "hpotter" ("host", "é")) Sample.seamlessState ∧
      ¬ PassesOn Sample.portal Sample.moment (Sample.visitOf "hpotter" ("host", "é"))
        Sample.seamlessState) ∧
    CarriesLiveSession Sample.moment (Sample.visitOf "hpotter" Sample.twoCookies)
      Sample.seamlessState ∧
      ¬ PassesOn Sample.portal Sample.moment (Sample.visitOf "hpotter" Sample.twoCookies)
        Sample.seamlessState := by
  have hsame : Text.sameAscii (Text.trim "é") (Text.trim "é") = true := by decide +kernel
  have hhost : (Sample.visitOf "hpotter" ("host", "é")).visit =
      ⟨[("remote_user", "hpotter")], "/user/session", ""⟩ := by
    decide +kernel
  have hget : (Sample.seamlessState.sessions.get Sample.moment.now Sample.token).1 =
      some Sample.session := by
    decide +kernel
  have hcookies : Cookie.all (Sample.visitOf "hpotter" Sample.twoCookies) =
      [(sessionCookieName, Sample.token), (sessionCookieName, "other")] := by
    decide +kernel
  have hother : (State.sessionOf Sample.seamlessState Sample.moment
      (Sample.visitOf "hpotter" Sample.twoCookies)).1 = none := by
    rw [State.sessionOf, Cookie.session?, hcookies]
    rfl
  have hvisit : (Sample.visitOf "hpotter" Sample.twoCookies).visit =
      ⟨[Sample.twoCookies, ("remote_user", "hpotter")], "/user/session", ""⟩ := by
    decide +kernel
  refine ⟨⟨⟨"é", "é", rfl, by decide, .plain (.plain (by decide)) hsame⟩, ?_⟩,
    ⟨Sample.token, Sample.session, by simp [hcookies], hget⟩, ?_⟩
  · refine not_passesOn rfl (by decide +kernel) ?_ ?_
    · rw [hhost]
      decide +kernel
    · rw [hhost]
      decide +kernel
  · refine not_passesOn hother (by decide +kernel) ?_ ?_
    · rw [hvisit]
      decide +kernel
    · rw [hvisit]
      decide +kernel

end DirectoryLogin
