import DirectoryLogin.Proofs.Http.Balance
import DirectoryLogin.Proofs.Http.Seamless

/-!
# What logging out ends

Logging out is a page like any other: the single sign-on that the portal makes by itself comes
before it, and of several session cookies it looks at the last one only. So there are two ways in
which somebody is logged in after a logout, `LogsInAgain` and `LeavesSession`, and there are no
others.

* `startsNone_iff`: a logout starts a session exactly if it logs in again;
* `get_after_logout`: cookie by cookie, what the cookies of the request lead to afterwards;
* `endsCarried_iff`: it ends the sessions of all its cookies exactly if it leaves none;
* `endsSet_of_not_logsInAgain`: the cookie that it sets leads to no session;
* `logout_exact`: all of these together.
-/

namespace DirectoryLogin

namespace Http

/-- The name and the value that a client keeps of a text that sets a cookie. -/
def Cookie.kept? (text : String) : Option (String × String) :=
  (Text.splitFirst? ';' text).bind fun parts => Cookie.parse? parts.1

theorem Cookie.kept?_removal (now : Time.Instant) :
    Cookie.kept? (Cookie.removal now) = some (sessionCookieName, "") := by
  have htext : Cookie.removal now = "ldapgate_session=" ++ String.singleton ';' ++
      (" Path=/; Max-Age=0; Expires=" ++ Time.httpDate (now.earlier Cookie.removalAge)) := by
    rw [← String.toList_inj]
    simp [Cookie.removal, sessionCookieName, toString]
  have hparse : Cookie.parse? "ldapgate_session=" = some (sessionCookieName, "") := by
    decide +kernel
  rw [Cookie.kept?, htext, Text.splitFirst?_append (by decide)]
  simpa only [Option.bind_some] using hparse

namespace Portal

/-- The request is for the page that logs out. -/
def AsksForLogout (r : Request) : Prop := r.method = "POST" ∧ r.path = "/user/logout"

/-- The value is that of one of the session cookies of the request, not only of the last. -/
def Carries (r : Request) (value : String) : Prop := (sessionCookieName, value) ∈ Cookie.all r

/-- The response sets a session cookie with the value. -/
def Sets (response : Response) (value : String) : Prop :=
  ∃ text ∈ response.setCookies, Cookie.kept? text = some (sessionCookieName, value)

/-- Nobody gets a session by the request. -/
def StartsNone (p : Portal) (m : Moment) (r : Request) (s : State) : Prop :=
  ∀ x ∈ (p.handle m r s).state.sessions.sessions, x ∈ s.sessions.sessions

/-- From then on, a cookie's value is not accepted. -/
def Dead (m : Moment) (t : SessionTable) (value : String) : Prop :=
  ∀ now, now.before m.now = false → (t.get now value).1 = none

def EndsCarried (p : Portal) (m : Moment) (r : Request) (s : State) : Prop :=
  ∀ value, Carries r value → Dead m (p.handle m r s).state.sessions value

def EndsSet (p : Portal) (m : Moment) (r : Request) (s : State) : Prop :=
  ∀ value, Sets (p.handle m r s).response value → Dead m (p.handle m r s).state.sessions value

/-- The last cookie leads to no session, or there is none, single sign-on runs by itself for the
request, and it lets the visitor in. -/
structure LogsInAgain (p : Portal) (m : Moment) (r : Request) (s : State) : Prop where
  anonymous : (s.sessionOf m r).1 = none
  runs : SingleSignOn.runsByItself r.visit s.service.live.sso = true
  admitted : (s.service.ssoLogin p.realm m.now r.visit).result.isOk = true

/-- A cookie's value leads to the live session, and the last cookie does not carry its id. -/
structure Spared (m : Moment) (r : Request) (s : State) (value : String) (x : Session) : Prop where
  live : (s.sessions.get m.now value).1 = some x
  other : ∀ last, Cookie.session? r = some last →
    SessionToken.verify? s.sessions.secret last ≠ some x.id

/-- A cookie before the last one leads to a session of its own. -/
def LeavesSession (m : Moment) (r : Request) (s : State) : Prop :=
  ∃ value last x, Carries r value ∧ Cookie.session? r = some last ∧
    (s.sessions.get m.now value).1 = some x ∧
    SessionToken.verify? s.sessions.secret last ≠ some x.id

/-- The id that is made for the request was never used: neither a session nor a cookie has it. -/
structure Unused (m : Moment) (r : Request) (s : State) : Prop where
  table : ∀ x ∈ s.sessions.sessions, x.id ≠ m.freshId
  cookie : ∀ value, Carries r value → SessionToken.verify? s.sessions.secret value ≠ some m.freshId

variable {p : Portal} {m : Moment} {r : Request} {s : State}

/-! ## Cookies -/

theorem carries_of_session? {value : String} (h : Cookie.session? r = some value) :
    Carries r value := by
  obtain ⟨⟨name, value'⟩, hfound, rfl⟩ := Option.map_eq_some_iff.mp h
  obtain rfl : name = sessionCookieName := by simpa using List.find?_some hfound
  exact List.mem_reverse.mp (List.mem_of_find?_eq_some hfound)

theorem session?_of_carries {value : String} (h : Carries r value) :
    ∃ last, Cookie.session? r = some last := by
  rw [← Option.isSome_iff_exists, Cookie.session?, Option.isSome_map, List.find?_isSome]
  exact ⟨_, List.mem_reverse.mpr h, by simp⟩

theorem sessionOf_fst {value : String} (h : Cookie.session? r = some value) :
    (s.sessionOf m r).1 = (s.sessions.get m.now value).1 := by
  simp only [State.sessionOf, h]

/-! ## The log of a logout -/

theorem route_of_asksForLogout (h : AsksForLogout r) : Route.ofPath? r.path = some .logout := by
  rw [h.2]
  decide +kernel

theorem asksForLogin_of_asksForLogout (h : AsksForLogout r) : asksForLogin r = false := by
  have hsso : ("/user/logout" == ssoPath) = false := by decide +kernel
  have hlogin : ("/user/logout" == loginPath) = false := by decide +kernel
  rw [asksForLogin, h.2, hsso, hlogin]
  rfl

/-- The page removes the session of the last cookie and does nothing else. -/
theorem pageLog_logout (hr : AsksForLogout r) (p : Portal) (m : Moment) (started : Option Session)
    (s : State) :
    p.pageLog m r started s =
      (Cookie.session? r).toList.map fun value => .called (.remove value) := by
  rw [pageLog, route_of_asksForLogout hr, Option.elim_some, routeLog, hr.1]
  rfl

theorem triesByItself_logout (hr : AsksForLogout r) :
    triesByItself m r s = true ↔
      (s.sessionOf m r).1 = none ∧ SingleSignOn.runsByItself r.visit s.service.live.sso = true := by
  simp [triesByItself, asksForLogin_of_asksForLogout hr]

/-- Whom a logout logs in. -/
theorem mem_outcomes_logout (hr : AsksForLogout r) {o : Outcome} :
    o ∈ outcomes (p.log m r s) ↔ triesByItself m r s = true ∧
      (s.service.ssoLogin p.realm m.now r.visit).result = .ok o := by
  have hlook : outcomes (lookLog m r) = [] := by rw [outcomes, attempts_lookLog]; rfl
  have hpage : outcomes (p.pageLog m r (p.handedOn m r s).1 (p.handedOn m r s).2) = [] := by
    rw [pageLog_logout hr]
    cases Cookie.session? r <;> rfl
  rw [log, outcomes_append, hpage, List.append_nil, layerLog, outcomes_append, hlook,
    List.nil_append]
  cases triesByItself m r s with
  | false => simp [outcomes, attempts]
  | true =>
    rw [if_pos rfl, outcomes_settleLog]
    cases (s.service.ssoLogin p.realm m.now r.visit).result <;> simp [Except.toOption, eq_comm]

theorem logsInAgain_iff (hr : AsksForLogout r) :
    LogsInAgain p m r s ↔ ∃ o, o ∈ outcomes (p.log m r s) := by
  simp only [mem_outcomes_logout hr, triesByItself_logout hr]
  constructor
  · rintro ⟨hanonymous, hruns, hadmitted⟩
    cases ho : (s.service.ssoLogin p.realm m.now r.visit).result with
    | error f =>
      rw [ho] at hadmitted
      cases hadmitted
    | ok o => exact ⟨o, ⟨hanonymous, hruns⟩, rfl⟩
  · rintro ⟨o, ⟨hanonymous, hruns⟩, ho⟩
    exact ⟨hanonymous, hruns, by rw [ho]; rfl⟩

/-! ## Sessions after a logout -/

/-- After a logout the last cookie leads to nothing in the table. -/
theorem verify?_ne_of_mem (hr : AsksForLogout r) {last : String}
    (hlast : Cookie.session? r = some last) {x : Session}
    (hx : x ∈ (p.handle m r s).state.sessions.sessions) :
    SessionToken.verify? s.sessions.secret last ≠ some x.id := by
  have hcalls : calls (p.log m r s) = calls (p.layerLog m r s) ++ [.remove last] := by
    rw [log, calls_append, pageLog_logout hr, hlast]
    rfl
  rw [(handle_logged p m r s).sessions, hcalls, SessionTable.after_concat] at hx
  have hremoved := (SessionTable.mem_remove.mp hx).2
  rwa [SessionTable.after_secret] at hremoved

theorem startsNone_iff (hr : AsksForLogout r) (hm : Unused m r s) :
    StartsNone p m r s ↔ ¬ LogsInAgain p m r s := by
  unfold StartsNone
  rw [logsInAgain_iff hr, (handle_logged p m r s).sessions]
  constructor
  · rintro hnone ⟨o, ho⟩
    have hcookie : ∀ value, Cookie.session? r = some value →
        SessionToken.verify? s.sessions.secret value ≠ some m.freshId :=
      fun value hvalue => hm.cookie value (carries_of_session? hvalue)
    exact hm.table _ (hnone _ (mem_of_outcome hcookie ho)) rfl
  · intro hlogin x hx
    rcases origin_of_mem hx with hbefore | ⟨o, ho, -⟩
    · exact hbefore
    · exact absurd ⟨o, ho⟩ hlogin

/-- The calls of a request spare a live session, unless the last cookie leads to it. -/
theorem mem_of_spared (hm : Unused m r s) {last : String} (hlast : Cookie.session? r = some last)
    {x : Session} (hx : x ∈ s.sessions.sessions) (hlive : x.isExpired m.now = false)
    (hne : SessionToken.verify? s.sessions.secret last ≠ some x.id) :
    x ∈ (s.sessions.after (calls (p.log m r s))).sessions := by
  have hfair := fair_log p m r s
  refine SessionTable.mem_after_of_mem hx fun c hc hends => ?_
  rcases hends.cases with ⟨now, id, hnow, hnew, hends⟩ | ⟨value, hvalue, hverify⟩
  · have hstarted : c ∈ creations (p.log m r s) := List.mem_filter.mpr ⟨hc, by rw [hnew]; rfl⟩
    rw [hfair.started] at hstarted
    obtain ⟨o, -, rfl⟩ := List.mem_map.mp hstarted
    obtain rfl : m.now = now := Option.some.inj hnow
    obtain rfl : m.freshId = id := Option.some.inj hnew
    rcases hends with hexpired | hid
    · rw [hlive] at hexpired
      cases hexpired
    · exact hm.table x hx hid
  · obtain rfl : last = value := Option.some.inj (hlast.symm.trans (hfair.cookie c hc value hvalue))
    exact hne hverify

/-- Handling a request keeps the ids of the sessions different. -/
theorem handle_distinct (hs : s.sessions.Distinct) (p : Portal) (m : Moment) (r : Request) :
    (p.handle m r s).state.sessions.Distinct :=
  (handle_logged p m r s).sessions ▸ hs.after _

/-- What a cookie of the request leads to after a logout, at any later time: the session that it led
to, if the last cookie spares it and its time is not over. -/
theorem get_after_logout (hr : AsksForLogout r) (hs : s.sessions.Distinct) (hm : Unused m r s)
    {value : String} (hcarries : Carries r value) {now : Time.Instant}
    (hnow : now.before m.now = false) {x : Session} :
    ((p.handle m r s).state.sessions.get now value).1 = some x ↔
      Spared m r s value x ∧ x.isExpired now = false := by
  have hsessions := (handle_logged p m r s).sessions
  have hsecret : (p.handle m r s).state.sessions.secret = s.sessions.secret := by
    rw [hsessions, SessionTable.after_secret]
  obtain ⟨last, hlast⟩ := session?_of_carries hcarries
  rw [(handle_distinct hs p m r).get_eq_some_iff, hsecret]
  constructor
  · rintro ⟨hverify, hx, hlive⟩
    have hother : ∀ last, Cookie.session? r = some last →
        SessionToken.verify? s.sessions.secret last ≠ some x.id :=
      fun last hlast => verify?_ne_of_mem hr hlast hx
    have hbefore : x ∈ s.sessions.sessions := by
      rw [hsessions] at hx
      rcases origin_of_mem hx with hbefore | ⟨o, -, rfl⟩
      · exact hbefore
      · exact absurd hverify (hm.cookie value hcarries)
    -- what has not expired later had not expired at the logout
    have hlive' : x.isExpired m.now = false := by
      rw [← Bool.not_eq_true] at hlive ⊢
      exact fun hexpired => hlive (SessionTable.isExpired_mono hexpired hnow)
    exact ⟨⟨hs.get_eq_some_iff.mpr ⟨hverify, hbefore, hlive'⟩, hother⟩, hlive⟩
  · rintro ⟨⟨hget, hother⟩, hlive⟩
    obtain ⟨hverify, hx, hlive'⟩ := hs.get_eq_some_iff.mp hget
    rw [hsessions]
    exact ⟨hverify, mem_of_spared hm hlast hx hlive' (hother last hlast), hlive⟩

theorem leavesSession_iff :
    LeavesSession m r s ↔ ∃ value x, Carries r value ∧ Spared m r s value x := by
  constructor
  · rintro ⟨value, last, x, hcarries, hlast, hget, hne⟩
    refine ⟨value, x, hcarries, hget, fun last' hlast' => ?_⟩
    obtain rfl : last = last' := Option.some.inj (hlast.symm.trans hlast')
    exact hne
  · rintro ⟨value, x, hcarries, hget, hother⟩
    obtain ⟨last, hlast⟩ := session?_of_carries hcarries
    exact ⟨value, last, x, hcarries, hlast, hget, hother last hlast⟩

theorem endsCarried_iff (hr : AsksForLogout r) (hs : s.sessions.Distinct) (hm : Unused m r s) :
    EndsCarried p m r s ↔ ¬ LeavesSession m r s := by
  rw [leavesSession_iff]
  constructor
  · rintro hends ⟨value, x, hcarries, hspared⟩
    have hnow : m.now.before m.now = false := by simp [Time.Instant.before]
    have hlive : x.isExpired m.now = false := (hs.get_eq_some_iff.mp hspared.live).2.2
    have hkept := (get_after_logout (p := p) hr hs hm hcarries hnow).mpr ⟨hspared, hlive⟩
    rw [hends value hcarries m.now hnow] at hkept
    cases hkept
  · intro hleaves value hcarries now hnow
    refine Option.eq_none_iff_forall_ne_some.mpr fun x hget => hleaves ?_
    exact ⟨value, x, hcarries, ((get_after_logout hr hs hm hcarries hnow).mp hget).1⟩

/-! ## The response to a logout -/

theorem handedOn_of_not_logsInAgain (hr : AsksForLogout r) (h : ¬ LogsInAgain p m r s) :
    (p.handedOn m r s).1 = none := by
  unfold handedOn
  split
  · rename_i htries
    obtain ⟨hanonymous, hruns⟩ := (triesByItself_logout hr).mp htries
    unfold State.settle
    cases hresult : (s.service.ssoLogin p.realm m.now r.visit).result with
    | error f => rfl
    | ok o => exact absurd ⟨hanonymous, hruns, by rw [hresult]; rfl⟩ h
  · rfl

/-- A logout that logs nobody in sets no cookie but the one that removes the session cookie. -/
theorem setCookies_logout (hr : AsksForLogout r) (h : ¬ LogsInAgain p m r s) {text : String}
    (htext : text ∈ (p.handle m r s).response.setCookies) : text = Cookie.removal m.now := by
  have hresponse : (p.handle m r s).response =
      (logout m r (p.handedOn m r s).2).response := by
    have hpost : (r.method == "HEAD") = false := by rw [hr.1]; decide
    have hserve : p.serve m r none (p.handedOn m r s).2 = logout m r (p.handedOn m r s).2 := by
      simp [serve, route_of_asksForLogout hr, Route.isProtected, answer, hr.1]
    have hlayer := seamless_response p m r s (p.serve m r)
    rw [withCookie, handedOn_of_not_logsInAgain hr h, Option.elim_none, hserve] at hlayer
    rw [← hlayer, handle, countRequest, Exchange.mapResponse, fitMethod, hpost]
    rfl
  rw [hresponse, logout] at htext
  split at htext
  · cases htext
  · exact List.mem_singleton.mp htext

theorem endsSet_of_not_logsInAgain (hr : AsksForLogout r) (h : ¬ LogsInAgain p m r s) :
    EndsSet p m r s := by
  rintro value ⟨text, htext, hkept⟩ now -
  rw [setCookies_logout hr h htext, Cookie.kept?_removal] at hkept
  obtain rfl : "" = value := congrArg Prod.snd (Option.some.inj hkept)
  rw [SessionTable.get_fst]
  rfl

/-- Which sessions there are after a logout, for any site and any settings: it starts one exactly if
it logs in again; each of its cookies leads afterwards exactly to the session that the last cookie
spares, so that all of them are ended exactly if it leaves none; and unless it logs in again the
cookie that it sets leads nowhere. -/
theorem logout_exact (hr : AsksForLogout r) (hs : s.sessions.Distinct) (hm : Unused m r s) :
    (StartsNone p m r s ↔ ¬ LogsInAgain p m r s) ∧
      (∀ value, Carries r value → ∀ now, now.before m.now = false → ∀ x,
        ((p.handle m r s).state.sessions.get now value).1 = some x ↔
          Spared m r s value x ∧ x.isExpired now = false) ∧
      (EndsCarried p m r s ↔ ¬ LeavesSession m r s) ∧
      (¬ LogsInAgain p m r s → EndsSet p m r s) :=
  ⟨startsNone_iff hr hm, fun _ hcarries _ hnow _ => get_after_logout hr hs hm hcarries hnow,
    endsCarried_iff hr hs hm, endsSet_of_not_logsInAgain hr⟩

end Portal

end Http

/-! ## Logouts at the sample site -/

open Http Http.Portal

namespace Sample

/-- A logout with some headers. -/
def logoutWith (headers : List (String × String)) : Request :=
  ⟨"POST", ⟨"/user/logout", none⟩, headers, ""⟩

/-- The person logs out. -/
def ownLogout : Request := logoutWith [("cookie", "ldapgate_session=" ++ token)]

/-- Somebody whom the front end asserts logs out without a session. -/
def assertedLogout : Request := logoutWith [("remote_user", "hpotter")]

end Sample

theorem sample_seamless_sessions :
    Sample.seamlessState.sessions = ⟨Digest.utf8 "secret", 3600, [Sample.session]⟩ := by
  decide +kernel

theorem sample_token_verify :
    SessionToken.verify? Sample.seamlessState.sessions.secret Sample.token =
      some Sample.session.id := by
  rw [sample_seamless_sessions]
  decide +kernel

theorem sample_seamless_distinct : Sample.seamlessState.sessions.Distinct := by
  rw [sample_seamless_sessions]
  decide

theorem sample_token_get :
    (Sample.seamlessState.sessions.get Sample.moment.now Sample.token).1 = some Sample.session := by
  rw [sample_seamless_distinct.get_eq_some_iff]
  refine ⟨sample_token_verify, ?_, by decide +kernel⟩
  rw [sample_seamless_sessions]
  exact List.mem_singleton_self _

/-- Nothing at the sample site has the new id, unless a cookie of the request has it. -/
theorem sample_unused {r : Request}
    (h : ∀ value, Carries r value → value = Sample.token ∨ value = "other") :
    Unused Sample.moment r Sample.seamlessState where
  table x hx := by
    rw [sample_seamless_sessions] at hx
    rw [List.mem_singleton.mp hx]
    decide
  cookie value hvalue := by
    rcases h value hvalue with rfl | rfl
    · rw [sample_token_verify]
      decide
    · nofun

/-! ### A logout with two cookies, the first of them live -/

theorem sample_two_cookies : Cookie.all (Sample.logoutWith [Sample.twoCookies]) =
    [(sessionCookieName, Sample.token), (sessionCookieName, "other")] := by
  decide +kernel

theorem sample_two_unused :
    Unused Sample.moment (Sample.logoutWith [Sample.twoCookies]) Sample.seamlessState :=
  sample_unused fun value hcarries => by simpa [Carries, sample_two_cookies] using hcarries

theorem sample_two_carried : Carries (Sample.logoutWith [Sample.twoCookies]) Sample.token := by
  simp [Carries, sample_two_cookies]

/-- The last cookie is worth nothing, so it spares the session of the first. -/
theorem sample_two_spared : Spared Sample.moment (Sample.logoutWith [Sample.twoCookies])
    Sample.seamlessState Sample.token Sample.session where
  live := sample_token_get
  other last hlast := by
    have hother : Cookie.session? (Sample.logoutWith [Sample.twoCookies]) = some "other" := by
      rw [Cookie.session?, sample_two_cookies]
      rfl
    obtain rfl : "other" = last := Option.some.inj (hother.symm.trans hlast)
    have hnone : SessionToken.verify? Sample.seamlessState.sessions.secret "other" = none := rfl
    rw [hnone]
    exact (Option.some_ne_none _).symm

/-- A logout with the live cookie logs out, also where single sign-on runs on every page. With
another cookie after the live one, the live one still leads to its session. -/
theorem sample_logout_exact :
    (AsksForLogout Sample.ownLogout ∧ Sample.seamlessState.sessions.Distinct ∧
      Unused Sample.moment Sample.ownLogout Sample.seamlessState ∧
      StartsNone Sample.portal Sample.moment Sample.ownLogout Sample.seamlessState ∧
      EndsCarried Sample.portal Sample.moment Sample.ownLogout Sample.seamlessState ∧
      EndsSet Sample.portal Sample.moment Sample.ownLogout Sample.seamlessState) ∧
    Unused Sample.moment (Sample.logoutWith [Sample.twoCookies]) Sample.seamlessState ∧
      ((Sample.portal.handle Sample.moment (Sample.logoutWith [Sample.twoCookies])
        Sample.seamlessState).state.sessions.get Sample.moment.now Sample.token).1 =
        some Sample.session := by
  have hasks : AsksForLogout Sample.ownLogout := ⟨rfl, rfl⟩
  have hcookies : Cookie.all Sample.ownLogout = [(sessionCookieName, Sample.token)] := by
    decide +kernel
  have hvalue : ∀ value, Carries Sample.ownLogout value → value = Sample.token := by
    simp [Carries, hcookies]
  have hunused : Unused Sample.moment Sample.ownLogout Sample.seamlessState :=
    sample_unused fun value hcarries => .inl (hvalue value hcarries)
  have hlast : Cookie.session? Sample.ownLogout = some Sample.token := by
    rw [Cookie.session?, hcookies]
    rfl
  have hlogin : ¬ LogsInAgain Sample.portal Sample.moment Sample.ownLogout
      Sample.seamlessState := by
    rintro ⟨hanonymous, -⟩
    rw [sessionOf_fst hlast, sample_token_get] at hanonymous
    cases hanonymous
  have hleaves : ¬ LeavesSession Sample.moment Sample.ownLogout Sample.seamlessState := by
    rintro ⟨value, last, x, hcarries, hlast', hget, hne⟩
    obtain rfl : Sample.token = last := Option.some.inj (hlast.symm.trans hlast')
    rw [hvalue value hcarries, sample_token_get] at hget
    obtain rfl : Sample.session = x := Option.some.inj hget
    exact hne sample_token_verify
  obtain ⟨hstarts, -, hcarried, hset⟩ :=
    logout_exact (p := Sample.portal) hasks sample_seamless_distinct hunused
  obtain ⟨-, heach, -⟩ := logout_exact (p := Sample.portal)
    (r := Sample.logoutWith [Sample.twoCookies]) ⟨rfl, rfl⟩ sample_seamless_distinct
    sample_two_unused
  refine ⟨⟨hasks, sample_seamless_distinct, hunused, hstarts.mpr hlogin, hcarried.mpr hleaves,
    hset hlogin⟩, sample_two_unused, ?_⟩
  exact (heach Sample.token sample_two_carried Sample.moment.now (by decide) Sample.session).mpr
    ⟨sample_two_spared, by decide +kernel⟩

/-- A logout without a session logs in whom the front end asserts, and of two session cookies a
logout leaves the session of the first. -/
theorem sample_logout_fails :
    (AsksForLogout Sample.assertedLogout ∧
      ¬ StartsNone Sample.portal Sample.moment Sample.assertedLogout Sample.seamlessState) ∧
    AsksForLogout (Sample.logoutWith [Sample.twoCookies]) ∧
      ¬ EndsCarried Sample.portal Sample.moment (Sample.logoutWith [Sample.twoCookies])
        Sample.seamlessState := by
  refine ⟨⟨⟨rfl, rfl⟩, ?_⟩, ⟨rfl, rfl⟩, ?_⟩
  · have hcookies : Cookie.all Sample.assertedLogout = [] := rfl
    have hvisit : Sample.assertedLogout.visit =
        ⟨[("remote_user", "hpotter")], "/user/logout", ""⟩ := by
      decide +kernel
    have hunused : Unused Sample.moment Sample.assertedLogout Sample.seamlessState :=
      sample_unused fun value hcarries => by simp [Carries, hcookies] at hcarries
    rw [startsNone_iff ⟨rfl, rfl⟩ hunused, not_not]
    refine ⟨rfl, ?_, ?_⟩
    · rw [hvisit]
      decide +kernel
    · rw [hvisit]
      decide +kernel
  · rw [endsCarried_iff ⟨rfl, rfl⟩ sample_seamless_distinct sample_two_unused, not_not,
      leavesSession_iff]
    exact ⟨Sample.token, Sample.session, sample_two_carried, sample_two_spared⟩

end DirectoryLogin
