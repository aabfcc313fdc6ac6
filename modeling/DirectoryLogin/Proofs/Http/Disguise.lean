import DirectoryLogin.Http.Router
import DirectoryLogin.Proofs.Login.Disguise

/-!
# The portal in disguise

No page shows a stored secret: an account is shown without its hash, and a server with whether there
is a password for its service account. So a request to a portal under a `Disguise` gets the same
response, and leaves the same state in disguise behind.

* `answer_portal`: each page;
* `seamless_portal`: the layer of single sign-on;
* `handle_portal`: the whole.
-/

namespace DirectoryLogin.Disguise

open Directory (Question)
open Http Http.Portal
open Settings (Authentication Site)

variable (d : Disguise)

def site (c : Site) : Site := { c with servers := c.servers.map d.definition }

def portal (p : Portal) : Portal := { p with site := d.site p.site, realm := d.realm p.realm }

def service (s : Service) : Service := { s with store := d.store s.store }

def state (s : State) : State := { s with service := d.service s.service }

/-- What a request leaves behind, in disguise. Neither the response nor the questions change. -/
def exchange (e : Exchange) : Exchange := { e with state := d.state e.state }

variable (p : Portal) (m : Moment) (r : Request) (s : State)

/-! ## Logging in -/

theorem record_state (kind : LoginKind) (a : Attempt) :
    (d.state s).record kind (d.attempt a) = d.state (s.record kind a) := by
  obtain ⟨result, store, questions⟩ := a
  cases result <;> rfl

theorem finishLogin_portal (kind : LoginKind) (a : Attempt) :
    (d.portal p).finishLogin m kind (d.attempt a) (d.state s) =
      d.exchange (p.finishLogin m kind a s) := by
  have questions : (d.attempt a).questions = a.questions := rfl
  have result : (d.attempt a).result = a.result.map d.outcome := rfl
  unfold Portal.finishLogin
  rw [record_state, questions, result]
  cases a.result <;> rfl

theorem passwordLogin_portal :
    (d.portal p).passwordLogin m r (d.state s) = d.exchange (p.passwordLogin m r s) := by
  unfold Portal.passwordLogin
  split
  · rfl
  · split
    · rfl
    · rename_i c _
      have attempted : (d.state s).service.login (d.portal p).realm m.now c.name c.password =
          d.attempt (s.service.login p.realm m.now c.name c.password) :=
        d.login_store p.realm s.service.live m.now c.name c.password s.service.store
      rw [attempted, finishLogin_portal]

theorem ssoLogin_state (now : Time.Instant) (v : Visit) :
    (d.state s).service.ssoLogin (d.portal p).realm now v =
      d.attempt (s.service.ssoLogin p.realm now v) :=
  d.ssoLogin_store p.realm s.service.live now v s.service.store

theorem assertedLogin_portal :
    (d.portal p).assertedLogin m r (d.state s) = d.exchange (p.assertedLogin m r s) := by
  unfold Portal.assertedLogin
  rw [ssoLogin_state, finishLogin_portal]

/-! ## The session -/

theorem logout_state : logout m r (d.state s) = d.exchange (logout m r s) := by
  unfold logout
  split <;> rfl

theorem sessionOf_state :
    (d.state s).sessionOf m r = ((s.sessionOf m r).1, d.state (s.sessionOf m r).2) := by
  unfold State.sessionOf
  split <;> rfl

theorem sessionResponse_state (session : Session) :
    sessionResponse (d.state s) session = sessionResponse s session := by
  have found : (d.state s).service.store.account session.uid =
      (s.service.store.account session.uid).map (Option.map d.account) :=
    d.mask.account_store s.service.store session.uid
  unfold sessionResponse
  rw [found]
  rcases s.service.store.account session.uid with e | _ | a <;> rfl

theorem currentSession_state (started : Option Session) :
    currentSession m r started (d.state s) = d.exchange (currentSession m r started s) := by
  unfold currentSession
  cases started with
  | some session => exact congrArg (Exchange.reply · _) (d.sessionResponse_state s session)
  | none =>
    dsimp only
    rw [sessionOf_state]
    rcases s.sessionOf m r with ⟨_ | session, s'⟩
    · rfl
    · exact congrArg (Exchange.reply · _) (d.sessionResponse_state s' session)

/-! ## Administration -/

theorem health_portal : (d.portal p).health m (d.state s) = d.exchange (p.health m s) := by
  have all : (d.portal p).realm.registry.all = p.realm.registry.all.map d.directory := rfl
  have shown : directoryHealth ∘ d.directory = directoryHealth := rfl
  have down : isDown ∘ d.directory = isDown := rfl
  simp only [Portal.health, healthWord, all, List.map_map, List.any_map, shown, down]
  rfl

theorem update_service (x : Service) (c : Authentication) :
    (d.service x).update (d.realm p.realm) c =
      ((x.update p.realm c).1, d.service (x.update p.realm c).2) := by
  have sids : (d.realm p.realm).registry.sids = p.realm.registry.sids :=
    d.sids_registry p.realm.registry
  unfold Service.update
  rw [sids]
  cases c.check p.realm.registry.sids <;> rfl

theorem changeSettings_portal :
    (d.portal p).changeSettings r (d.state s) = d.exchange (p.changeSettings r s) := by
  unfold Portal.changeSettings
  split
  · rfl
  · rename_i form _
    have updated : (d.state s).service.update (d.portal p).realm
        (form.toSettings (d.state s).service.live) = _ :=
      d.update_service p s.service (form.toSettings s.service.live)
    dsimp only
    rw [updated]
    rcases s.service.update p.realm (form.toSettings s.service.live) with ⟨f | _, service⟩ <;> rfl

theorem publicJson_definition (x : ServerDefinition) :
    (d.definition x).publicJson = x.publicJson := by
  simp only [ServerDefinition.publicJson, definition, d.isEmpty]
  rfl

theorem showServers_portal :
    (d.portal p).showServers (d.state s) = d.exchange (p.showServers s) := by
  have shown : (d.registry p.realm.registry).all.map (·.definition.publicJson) =
      p.realm.registry.all.map (·.definition.publicJson) := by
    refine List.map_map.trans (List.map_congr_left fun x _ => ?_)
    exact d.publicJson_definition x.definition
  exact congrArg (fun shown => Exchange.reply (.success (.array shown)) (d.state s)) shown

theorem testServer_portal (sid : String) :
    (d.portal p).testServer sid r (d.state s) = d.exchange (p.testServer sid r s) := by
  have found : (d.portal p).realm.registry.get? sid =
      (p.realm.registry.get? sid).map d.directory := d.get?_registry p.realm.registry sid
  unfold Portal.testServer
  rw [found]
  split
  · rfl
  · split
    · rfl
    · cases p.realm.registry.get? sid <;> rfl

theorem showAccounts_state : showAccounts (d.state s) = d.exchange (showAccounts s) := by
  have listed : (d.state s).service.store.listAccounts =
      s.service.store.listAccounts.map (List.map d.account) := d.mask.listAccounts_store s.service.store
  unfold showAccounts
  rw [listed]
  cases s.service.store.listAccounts with
  | error e => rfl
  | ok accounts =>
    have shown : (accounts.map d.account).map Account.toJson = accounts.map Account.toJson :=
      List.map_map
    exact congrArg (fun shown => Exchange.reply (.success (.array shown)) (d.state s)) shown

/-! ## Requests -/

theorem answer_portal (started : Option Session) (route : Route) :
    (d.portal p).answer m r started (d.state s) route =
      d.exchange (p.answer m r started s route) := by
  cases route with
  | metrics =>
    simp only [Portal.answer]
    split <;> rfl
  | login =>
    simp only [Portal.answer, passwordLogin_portal]
    split <;> rfl
  | sso =>
    simp only [Portal.answer, assertedLogin_portal]
    split <;> rfl
  | logout =>
    simp only [Portal.answer, logout_state]
    split <;> rfl
  | session =>
    simp only [Portal.answer, currentSession_state]
    split <;> rfl
  | health =>
    simp only [Portal.answer, health_portal]
    split <;> rfl
  | settings =>
    simp only [Portal.answer, changeSettings_portal]
    split
    · rfl
    · split <;> rfl
  | servers =>
    simp only [Portal.answer, showServers_portal]
    split <;> rfl
  | serverTest encodedSid =>
    simp only [Portal.answer, testServer_portal]
    split
    · split <;> rfl
    · rfl
  | accounts =>
    simp only [Portal.answer, showAccounts_state]
    split <;> rfl

theorem verifySiteOwner_service (x : Service) (name password : String) :
    (d.service x).verifySiteOwner name password = (x.verifySiteOwner name password).map d.account := by
  have found : (d.service x).store.accountByName name =
      (x.store.accountByName name).map (Option.map d.account) := d.mask.accountByName_store x.store name
  unfold Service.verifySiteOwner
  rw [found]
  rcases x.store.accountByName name with e | _ | a
  · rfl
  · rfl
  · have owner : (d.account a).isSiteOwner = a.isSiteOwner := rfl
    simp only [Except.map, Option.map_some, acceptsPassword_account, owner]
    split <;> rfl

theorem ownerOf_state : ownerOf (d.state s) r = (ownerOf s r).map d.account := by
  unfold ownerOf
  split
  · rename_i name password _
    have checked := d.verifySiteOwner_service s.service name password
    show ((d.service s.service).verifySiteOwner name password).toOption = _
    rw [checked]
    cases s.service.verifySiteOwner name password <;> rfl
  · rfl

theorem serve_portal (started : Option Session) :
    (d.portal p).serve m r started (d.state s) = d.exchange (p.serve m r started s) := by
  unfold Portal.serve
  split
  · rfl
  · rw [ownerOf_state, Option.isNone_map, answer_portal]
    split <;> rfl

section Layers

variable {next next' : Option Session → State → Exchange}
    (h : ∀ started s, next' started (d.state s) = d.exchange (next started s))

include h

theorem attemptThen_portal :
    (d.portal p).attemptThen m r (d.state s) next' = d.exchange (p.attemptThen m r s next) := by
  unfold Portal.attemptThen
  dsimp only
  rw [ssoLogin_state, record_state]
  generalize s.service.ssoLogin p.realm m.now r.visit = a
  generalize s.record .seamlessSso a = s'
  obtain ⟨result, store, questions⟩ := a
  cases result with
  | error f => exact congrArg (Exchange.after · questions) (h none s')
  | ok o =>
    have answered := h (some (s'.startSession m o).1) (s'.startSession m o).2
    exact congrArg (fun e : Exchange => (e.mapResponse
      (·.addCookie (p.cookieOf (s'.startSession m o).2 (s'.startSession m o).1))).after questions)
      answered

theorem seamless_portal :
    (d.portal p).seamless m r (d.state s) next' = d.exchange (p.seamless m r s next) := by
  unfold Portal.seamless
  rw [sessionOf_state]
  rcases s.sessionOf m r with ⟨live, s'⟩
  have sso : (d.state s').service.live.sso = s'.service.live.sso := rfl
  dsimp only
  rw [sso, h none s', attemptThen_portal d p m r s' h]
  split
  · rfl
  · split <;> rfl

end Layers

/-- A request to the portal in disguise. -/
theorem handle_portal : (d.portal p).handle m r (d.state s) = d.exchange (p.handle m r s) := by
  have layered : (d.portal p).seamless m r (d.state s) ((d.portal p).serve m r) =
      d.exchange (p.seamless m r s (p.serve m r)) :=
    d.seamless_portal p m r s fun started s => d.serve_portal p m r s started
  unfold Portal.handle
  rw [layered]
  rfl

end DirectoryLogin.Disguise
