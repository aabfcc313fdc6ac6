import DirectoryLogin.Proofs.Account.History
import DirectoryLogin.Proofs.Http.Runs
import DirectoryLogin.Proofs.Login.Guarded
import DirectoryLogin.Proofs.Text.Cuts

/-!
# Only the site owner changes settings

A request reaches its page through the layer of single sign-on, which leaves alone what concerns
settings and the site owner. So the owner's credentials are checked as they would have been before
it, and the pages behind the check are out of reach without them.

* `handleBy_behind`: the state in which the page of a request answers;
* `serve_cases`: a page keeps the settings, unless it takes over a form for the site owner;
* `handle_settings`: the owner's form is taken over;
* `live_afterRequests`: where the settings in force come from;
* `only_owner_changes_settings`: what holds of every request, whatever requests came before it.
-/

namespace DirectoryLogin

open Digest (Bytes)
open Settings (Authentication)
open Time (Instant)

namespace Http.Portal

open Service (SameSettings Guarded Reachable settingsName)

variable {p : Portal} {m : Moment} {r : Request} {s : State}

/-! ## The layers before a page -/

/-- Answers a request by a page of one's own in place of the site's. -/
def handleBy (p : Portal) (m : Moment) (r : Request) (s : State)
    (page : Option Session → State → Exchange) : Exchange :=
  countRequest r ((p.seamless m r s page).mapResponse (fitMethod r))

theorem handle_eq_handleBy (p : Portal) (m : Moment) (r : Request) (s : State) :
    p.handle m r s = p.handleBy m r s (p.serve m r) := rfl

/-- What the layer of single sign-on does with a page: it lets it answer in the state `s'`, and
does something to the exchange that concerns neither the service nor the status. -/
structure Behind (s s' : State) (started : Option Session) (finish : Exchange → Exchange)
    (layer : (Option Session → State → Exchange) → Exchange) : Prop where
  guarded : Guarded s.service s'.service
  page : ∀ next, layer next = finish (next started s')
  service : ∀ e, (finish e).state.service = e.state.service
  status : ∀ e, (finish e).response.status = e.response.status

theorem attemptThen_behind (h : s.service.store.WellFormed) (p : Portal) (m : Moment)
    (r : Request) : ∃ s' started finish, Behind s s' started finish (p.attemptThen m r s) := by
  let a := s.service.ssoLogin p.realm m.now r.visit
  let s₁ := s.record .seamlessSso a
  have guarded : Guarded s.service s₁.service := by
    rw [record_service]
    exact Service.ssoLogin_guarded h p.realm m.now r.visit
  cases hres : a.result with
  | error f =>
    refine ⟨s₁, none, (·.after a.questions), guarded, fun next => ?_, fun _ => rfl, fun _ => rfl⟩
    simp only [attemptThen, s₁, a, hres]
  | ok o =>
    let started := s₁.startSession m o
    refine ⟨started.2, some started.1,
      fun e => (e.mapResponse (·.addCookie (p.cookieOf started.2 started.1))).after a.questions,
      guarded, fun next => ?_, fun _ => rfl, fun _ => rfl⟩
    simp only [attemptThen, started, s₁, a, hres]

theorem seamless_behind (h : s.service.store.WellFormed) (p : Portal) (m : Moment) (r : Request) :
    ∃ s' started finish, Behind s s' started finish (p.seamless m r s) := by
  have kept := sessionOf_service s m r
  -- Looking the session up may drop it, which the service does not notice.
  generalize hs₁ : (s.sessionOf m r).2 = s₁ at kept
  have untouched : Guarded s.service s₁.service := kept ▸ .refl s.service
  by_cases hlive : (s.sessionOf m r).1.isSome || asksForLogin r
  · refine ⟨s₁, none, id, untouched, fun next => ?_, fun _ => rfl, fun _ => rfl⟩
    simp only [seamless, hlive, hs₁, if_true, id]
  · by_cases hruns : SingleSignOn.runsByItself r.visit s₁.service.live.sso
    · obtain ⟨s', started, finish, behind⟩ := attemptThen_behind (s := s₁) (kept ▸ h) p m r
      refine ⟨s', started, finish, kept ▸ behind.guarded, fun next => ?_, behind.service,
        behind.status⟩
      rw [← behind.page]
      simp only [seamless, hlive, hs₁, hruns, if_true, if_false, Bool.false_eq_true]
    · refine ⟨s₁, none, id, untouched, fun next => ?_, fun _ => rfl, fun _ => rfl⟩
      simp only [seamless, hlive, hs₁, hruns, if_false, id, Bool.false_eq_true]

/-- Behind its layers a request is answered in a state where single sign-on has left what concerns
the site owner. -/
theorem handleBy_behind (h : s.service.store.WellFormed) (p : Portal) (m : Moment) (r : Request) :
    ∃ s' started finish, Behind s s' started finish (p.handleBy m r s) := by
  obtain ⟨s', started, finish, behind⟩ := seamless_behind h p m r
  refine ⟨s', started, fun e => countRequest r ((finish e).mapResponse (fitMethod r)),
    behind.guarded, fun next => ?_, fun e => behind.service e, fun e => ?_⟩
  · rw [handleBy, behind.page]
  · refine Eq.trans ?_ (behind.status e)
    show (fitMethod r (finish e).response).status = _
    unfold fitMethod
    split <;> rfl

/-! ## Pages -/

/-- The settings of the submitted form pass the check, and are now in force and saved. -/
def TakesOver (p : Portal) (r : Request) (s s' : Service) : Prop :=
  ∃ form, formOf r = .ok form ∧
    (form.toSettings s.live).check p.realm.registry.sids = .ok () ∧
    s'.live = form.toSettings s.live ∧
    s'.store.savedSettings settingsName = some (form.toSettings s.live).toJson.print

theorem changeSettings_cases (p : Portal) (r : Request) (s : State) :
    SameSettings s.service (p.changeSettings r s).state.service ∨
      TakesOver p r s.service (p.changeSettings r s).state.service := by
  unfold changeSettings
  split
  · exact .inl (.refl s.service)
  · rename_i form hform
    cases hc : (form.toSettings s.service.live).check p.realm.registry.sids with
    | error refusal =>
      left
      simp only [Service.update, hc]
      exact .refl s.service
    | ok =>
      right
      simp only [Service.update, hc]
      exact ⟨form, hform, hc, rfl, s.service.store.savedSettings_saveSettings _ _⟩

theorem finishLogin_same (p : Portal) (m : Moment) (kind : LoginKind) {a : Attempt}
    (h : a.store.settings = s.service.store.settings) :
    SameSettings s.service (p.finishLogin m kind a s).state.service := by
  have recorded : SameSettings s.service (s.record kind a).service := by
    rw [record_service]
    exact ⟨rfl, h⟩
  unfold finishLogin
  dsimp only
  split
  · exact recorded
  · exact recorded

/-- A page keeps the settings, unless it is the one that takes a form. -/
theorem answer_cases (p : Portal) (m : Moment) (r : Request) (started : Option Session) (s : State)
    (route : Route) :
    SameSettings s.service (p.answer m r started s route).state.service ∨
      route = .settings ∧ r.method = "PUT" ∧
        TakesOver p r s.service (p.answer m r started s route).state.service := by
  have same {s' : Service} (h : s' = s.service) : SameSettings s.service s' := h ▸ .refl s'
  cases route with
  | login =>
    left
    simp only [answer]
    split
    · unfold passwordLogin
      split
      · exact .refl _
      · split
        · exact .refl _
        · rename_i c _
          exact finishLogin_same p m .password
            (s.service.login_keeps_settings p.realm m.now c.name c.password)
    · exact .refl _
  | sso =>
    left
    simp only [answer]
    split
    · exact finishLogin_same p m .sso (s.service.ssoLogin_keeps_settings p.realm m.now r.visit)
    · exact .refl _
  | settings =>
    simp only [answer]
    split
    · exact .inl (.refl _)
    · split
      · rename_i hput
        exact (changeSettings_cases p r s).imp_right fun h => ⟨trivial, by simpa using hput, h⟩
      · exact .inl (.refl _)
  | logout =>
    left
    simp only [answer]
    split
    · exact same (logout_service m r s)
    · exact .refl _
  | session =>
    left
    simp only [answer]
    split
    · exact same (currentSession_service m r started s)
    · exact .refl _
  | serverTest encodedSid =>
    left
    simp only [answer]
    split
    · split
      · exact .refl _
      · exact same (congrArg State.service (testServer_state p _ r s))
    · exact .refl _
  | accounts =>
    left
    simp only [answer]
    split
    · exact same (congrArg State.service (showAccounts_state s))
    · exact .refl _
  | metrics | health | servers =>
    left
    simp only [answer]
    split <;> exact .refl _

/-- The parts between the slashes of the path of a page. -/
def parts : Route → List String
  | .metrics => ["", "metrics"]
  | .login => ["", "user", "login"]
  | .sso => ["", "user", "login", "sso"]
  | .logout => ["", "user", "logout"]
  | .session => ["", "user", "session"]
  | .health => ["", "api", "v1", "health"]
  | .settings => ["", "api", "v1", "authentication", "config"]
  | .servers => ["", "api", "v1", "servers"]
  | .serverTest sid => ["", "api", "v1", "servers", sid, "test"]
  | .accounts => ["", "api", "v1", "accounts"]

/-- A page has one path only. -/
theorem path_of_route {path : String} {route : Route} (h : Route.ofPath? path = some route) :
    path = String.intercalate "/" (parts route) := by
  have found : Text.splitOn '/' path = parts route := by
    unfold Route.ofPath? at h
    generalize Text.splitOn '/' path = pieces at h
    unfold Route.ofParts? at h
    split at h <;> cases h <;> rfl
  rw [← found]
  exact (Text.intercalate_splitOn '/' path).symm

theorem path_of_settings {path : String} (h : Route.ofPath? path = some .settings) :
    path = "/api/v1/authentication/config" := (path_of_route h).trans (by decide +kernel)

/-- The request comes with a name and a password that the check of the site owner accepts. -/
def FromOwner (r : Request) (s : Service) : Prop :=
  ∃ name password a, r.basicCredentials = some (name, password) ∧
    s.verifySiteOwner name password = .ok a

theorem isSome_ownerOf_iff : (ownerOf s r).isSome = true ↔ FromOwner r s.service := by
  rw [Option.isSome_iff_exists]
  constructor
  · rintro ⟨a, ha⟩
    obtain ⟨name, password, hr, hcred⟩ := Service.ownerOf_eq_some_iff.mp ha
    exact ⟨name, password, a, hr, Service.verifySiteOwner_eq_ok_iff.mpr hcred⟩
  · rintro ⟨name, password, a, hr, ha⟩
    exact ⟨a, Service.ownerOf_eq_some_iff.mpr
      ⟨name, password, hr, Service.verifySiteOwner_eq_ok_iff.mp ha⟩⟩

theorem FromOwner.before {s s' : Service} (h : FromOwner r s') (hg : Guarded s s') :
    FromOwner r s := by
  obtain ⟨name, password, a, hr, ha⟩ := h
  obtain ⟨b, hb⟩ := hg.credentials name password a ha
  exact ⟨name, password, b, hr, hb⟩

theorem serve_cases (p : Portal) (m : Moment) (r : Request) (started : Option Session) (s : State) :
    SameSettings s.service (p.serve m r started s).state.service ∨
      Route.ofPath? r.path = some .settings ∧ r.method = "PUT" ∧ FromOwner r s.service ∧
        TakesOver p r s.service (p.serve m r started s).state.service := by
  unfold serve
  split
  · exact .inl (.refl _)
  · rename_i route hroute
    split
    · exact .inl (.refl _)
    · rename_i admitted
      rcases answer_cases p m r started s route with same | ⟨rfl, hput, taken⟩
      · exact .inl same
      · have owner : FromOwner r s.service := by
          rw [← isSome_ownerOf_iff]
          simpa [Route.isProtected, Option.isSome_iff_ne_none] using admitted
        exact .inr ⟨hroute, hput, owner, taken⟩

theorem serve_unauthorized {route : Route} (hroute : Route.ofPath? r.path = some route)
    (hp : route.isProtected = true) (hr : ¬ FromOwner r s.service) (p : Portal) (m : Moment)
    (started : Option Session) : p.serve m r started s = .reply .unauthorized s := by
  have nobody : (ownerOf s r).isNone = true := by
    rw [← isSome_ownerOf_iff] at hr
    simpa using hr
  simp [serve, hroute, hp, nobody]

/-! ## Requests -/

/-- A request that takes over the form that the site owner submits. -/
structure OwnersChange (p : Portal) (r : Request) (s s' : Service) : Prop where
  method : r.method = "PUT"
  path : r.path = "/api/v1/authentication/config"
  owner : FromOwner r s
  taken : TakesOver p r s s'

/-- Nobody but the site owner gets at the settings, or at any page of the administration. -/
structure OwnerOnly (p : Portal) (m : Moment) (r : Request) (s : State) : Prop where
  changed : (p.handle m r s).state.service.live ≠ s.service.live ∨
    (p.handle m r s).state.service.store.savedSettings settingsName ≠
      s.service.store.savedSettings settingsName →
    OwnersChange p r s.service (p.handle m r s).state.service
  /-- To all others a page of the administration answers 401, as if it had nothing else to say. -/
  barred : ∀ route, Route.ofPath? r.path = some route → route.isProtected = true →
    ¬ FromOwner r s.service →
    (p.handle m r s).response.status = 401 ∧
      p.handle m r s = p.handleBy m r s fun _ s => .reply .unauthorized s

theorem handle_ownerOnly (h : s.service.store.WellFormed) (p : Portal) (m : Moment) (r : Request) :
    OwnerOnly p m r s := by
  obtain ⟨s', started, finish, behind⟩ := handleBy_behind h p m r
  have handled : p.handle m r s = finish (p.serve m r started s') :=
    (handle_eq_handleBy p m r s).trans (behind.page (p.serve m r))
  have guarded := behind.guarded
  constructor
  · rw [handled, behind.service]
    intro changed
    rcases serve_cases p m r started s' with same | ⟨hroute, hput, owner, form, hform, hc, hl, hs⟩
    · rw [same.live, guarded.live,
        Store.savedSettings_congr (same.saved.trans guarded.saved)] at changed
      exact absurd changed (by simp)
    · rw [guarded.live] at hc hl hs
      exact ⟨hput, path_of_settings hroute, owner.before guarded, form, hform, hc, hl, hs⟩
  · intro route hroute hp hr
    have page := serve_unauthorized (s := s') hroute hp (fun owner => hr (owner.before guarded)) p m
      started
    constructor
    · rw [handled, behind.status, page]
      rfl
    · rw [handled, page]
      exact (behind.page fun _ s => .reply .unauthorized s).symm

/-- The site owner's form is taken over where single sign-on does not come in between. -/
theorem handle_settings {form : Settings.Form} (hm : r.method = "PUT")
    (hp : Route.ofPath? r.path = some .settings) (ho : FromOwner r s.service)
    (hf : formOf r = .ok form)
    (hc : (form.toSettings s.service.live).check p.realm.registry.sids = .ok ())
    (hcookie : Cookie.session? r = none)
    (hruns : SingleSignOn.runsByItself r.visit s.service.live.sso = false) :
    (p.handle m r s).state.service =
      (s.service.save (form.toSettings s.service.live)).apply (form.toSettings s.service.live) := by
  have nobody : s.sessionOf m r = (none, s) := by simp [State.sessionOf, hcookie]
  have layer : p.seamless m r s (p.serve m r) = p.serve m r none s := by
    simp [seamless, nobody, hruns]
  have owner : (ownerOf s r).isNone = false := by
    rw [← Option.not_isSome, isSome_ownerOf_iff.mpr ho, Bool.not_true]
  have page : p.serve m r none s = p.changeSettings r s := by
    simp [serve, hp, owner, answer, Request.isRead, hm]
  have accepted := (Service.update_eq_ok_iff (s := s.service)).mpr ⟨hc, rfl⟩
  show (p.seamless m r s (p.serve m r)).state.service = _
  rw [layer, page]
  simp only [changeSettings, hf, accepted]
  rfl

/-! ## Runs -/

/-- The state after some requests. Each is answered by the portal that is there at its moment, since
the directories do not stay as they are. -/
def State.afterRequests (s : State) (requests : List (Portal × Moment × Request)) : State :=
  s.run (requests.map fun (p, m, r) => .request p m r)

theorem State.afterRequests_concat (s : State) (requests : List (Portal × Moment × Request))
    (p : Portal) (m : Moment) (r : Request) :
    s.afterRequests (requests ++ [(p, m, r)]) =
      (p.handle m r (s.afterRequests requests)).state := by
  simp [afterRequests, run, act]

theorem afterRequests_ownerOnly (h : s.service.Reachable)
    (requests : List (Portal × Moment × Request)) (p : Portal) (m : Moment) (r : Request) :
    OwnerOnly p m r (s.afterRequests requests) :=
  handle_ownerOnly (State.run_reachable h _).wellFormed p m r

/-- The settings in force are those from before all requests, or the site owner has submitted them
by one of the requests. -/
theorem live_afterRequests (h : s.service.Reachable) (requests : List (Portal × Moment × Request)) :
    (s.afterRequests requests).service.live = s.service.live ∨
      ∃ earlier p m r later, requests = earlier ++ (p, m, r) :: later ∧
        OwnersChange p r (s.afterRequests earlier).service
          (p.handle m r (s.afterRequests earlier)).state.service ∧
        (s.afterRequests requests).service.live =
          (p.handle m r (s.afterRequests earlier)).state.service.live := by
  induction requests using List.reverseRecOn with
  | nil => exact .inl rfl
  | append_singleton requests last ih =>
    obtain ⟨p, m, r⟩ := last
    rw [State.afterRequests_concat]
    have only := afterRequests_ownerOnly h requests p m r
    by_cases same : (p.handle m r (s.afterRequests requests)).state.service.live =
        (s.afterRequests requests).service.live
    · rw [same]
      refine ih.imp_right ?_
      rintro ⟨earlier, p', m', r', later, rfl, changed, hlive⟩
      exact ⟨earlier, p', m', r', later ++ [(p, m, r)], by simp, changed, hlive⟩
    · exact .inr ⟨requests, p, m, r, [], rfl, only.changed (.inl same), rfl⟩

theorem start_reachable {site : Settings.Site} {registry : Registry} {store : Store} {now : Instant}
    {salt : Bytes} (h : Portal.start site registry store now salt = .ok s)
    (hs : Reachable ⟨store, site.authentication⟩) : s.service.Reachable := by
  let made : Service.Turn := ⟨realmOf site registry, now,
    .ensureSiteOwner salt site.owner.name site.owner.mail site.owner.password⟩
  let loaded : Service.Turn := ⟨realmOf site registry, now, .load⟩
  have reached := Reachable.turn _ loaded (.turn _ made hs)
  unfold Portal.start at h
  dsimp only at h
  split at h
  · cases h
  · rename_i service hmade
    cases h
    have hstep : (⟨store, site.authentication⟩ : Service).step made = service :=
      congrArg Prod.snd hmade
    rwa [hstep] at reached

theorem reachable_of_calls (c : Authentication) (calls : List Store.Call) :
    Reachable ⟨Store.empty.after calls, c⟩ := by
  induction calls using List.reverseRecOn with
  | nil => exact .start c
  | append_singleton calls call ih =>
    rw [Store.after_concat]
    exact .call _ call ih

/-- From the start of a site on any store, and after any requests, no request gets at the settings
but the site owner's. -/
theorem only_owner_changes_settings {site : Settings.Site} {registry : Registry}
    {calls : List Store.Call} {now : Instant} {salt : Bytes}
    (h : Portal.start site registry (Store.empty.after calls) now salt = .ok s)
    (requests : List (Portal × Moment × Request)) (p : Portal) (m : Moment) (r : Request) :
    OwnerOnly p m r (s.afterRequests requests) := by
  have reached := start_reachable h (reachable_of_calls site.authentication calls)
  exact afterRequests_ownerOnly reached requests p m r

end Http.Portal

/-! ## The owner at the sample site -/

open Http Http.Portal

namespace Sample

/-- The sample site with a password for its owner. -/
def ownedSite : Settings.Site :=
  { Settings.Site.default with authentication := settings, owner := ⟨"admin", none, some "secret"⟩ }

/-- The site of the owner after its start. -/
def ownedState : State := ⟨owned "secret", .empty "" 28800, .empty⟩

/-- The owner submits settings without single sign-on. -/
def changeRequest : Request :=
  ⟨"PUT", ⟨"/api/v1/authentication/config", none⟩,
    [("authorization", "Basic YWRtaW46c2VjcmV0"), ("content-type", "application/json")],
    "\x7b\"sids\":[\"hogwarts\"],\"authentication_mode\":\"exclusive\"\x7d"⟩

/-- The same from somebody without credentials. -/
def strangersRequest : Request := { changeRequest with headers := [] }

end Sample

theorem sample_start : Portal.start Sample.ownedSite Sample.realm.registry (Store.empty.after [])
    Sample.now Sample.salt = .ok Sample.ownedState := rfl

theorem sample_live_changed :
    (Sample.portal.handle Sample.moment Sample.changeRequest Sample.ownedState).state.service.live =
      { Sample.settings with mode := .exclusive, sso := .default } := by
  have howner : FromOwner Sample.changeRequest Sample.ownedState.service :=
    ⟨"admin", "secret", Sample.owner "secret", by decide +kernel,
      Service.verifySiteOwner_eq_ok_iff.mpr (owned_credentials "secret")⟩
  have hread : (formOf Sample.changeRequest).toOption.map (·.toSettings Sample.settings) =
      some { Sample.settings with mode := .exclusive, sso := .default } := by
    decide +kernel
  obtain ⟨form, hform, hsettings⟩ := Option.map_eq_some_iff.mp hread
  have hcheck : (form.toSettings Sample.settings).check Sample.realm.registry.sids = .ok () := by
    rw [hsettings]
    rfl
  have hservice := handle_settings (p := Sample.portal) (m := Sample.moment) rfl
    (by decide +kernel) howner (toOption_eq_some_iff.mp hform) hcheck (by decide +kernel)
    (by decide +kernel)
  rw [hservice]
  exact hsettings

/-- The owner's request changes the settings, and the stranger's is turned away. -/
theorem sample_owner_changes_settings :
    OwnersChange Sample.portal Sample.changeRequest Sample.ownedState.service
        (Sample.portal.handle Sample.moment Sample.changeRequest
          Sample.ownedState).state.service ∧
      (Sample.portal.handle Sample.moment Sample.strangersRequest
        Sample.ownedState).response.status = 401 := by
  have only (r : Request) : OwnerOnly Sample.portal Sample.moment r Sample.ownedState :=
    only_owner_changes_settings sample_start [] Sample.portal Sample.moment r
  constructor
  · have different : (Sample.portal.handle Sample.moment Sample.changeRequest
        Sample.ownedState).state.service.live ≠ Sample.ownedState.service.live := by
      rw [sample_live_changed]
      show _ ≠ Sample.settings
      decide +kernel
    exact (only Sample.changeRequest).changed (.inl different)
  · have hnone : Sample.strangersRequest.basicCredentials = none := by decide +kernel
    refine ((only Sample.strangersRequest).barred .settings (by decide +kernel) rfl ?_).1
    rintro ⟨name, password, a, hsome, -⟩
    cases hnone.symm.trans hsome

end DirectoryLogin
