import DirectoryLogin.Proofs.Directory.Registry
import DirectoryLogin.Proofs.Http.Attempts
import DirectoryLogin.Proofs.Http.OwnerOnly
import DirectoryLogin.Proofs.Login.Resolution
import DirectoryLogin.Proofs.Text.Trimming

/-!
# What the test of a server shows

The test of a server shows the account name, the mail address and the id that the entry of a user
name has. A login makes an identity from the same entry, but it trims what it takes from there,
passes over blank values, and falls back on the user name where the entry has no account name. The
test does none of this.

* `searchOf?_testServer`, `search_of_handle`: the search that a response shows is one that was made;
* `Resolution.Builds.eq`, `Resolution.builds_of_listed`: the identity that a login makes of the entry;
* `showsIdentity_iff`, `search_shows_identity_iff`: the test shows this identity exactly if the
  entry's values can be taken over as they are.
-/

namespace DirectoryLogin

open Settings (Authentication)

/-! ## The identity of a login -/

namespace Resolution

variable {r : Registry} {c : Authentication} {d : Directory} {username : String} {e : Entry}
  {i : Identity}

/-- A login under the name, with a password or by single sign-on, comes to the identity. -/
def Builds (r : Registry) (c : Authentication) (username : String) (i : Identity) : Prop :=
  (∃ password, (ofCredentials r c username password).result = .ok i) ∨
    (ofAsserted r c username).result = .ok i

/-- The identity of an entry of a server is put together from these and the trimmed name. -/
theorem Builds.eq (h : Builds r c username i) (hd : r.get? i.sid = some d) :
    i = ⟨i.entry, Text.trim username, d.definition⟩ := by
  have hmade : ∃ x ∈ r.candidates c, ∃ e, i = ⟨e, Text.trim username, x.definition⟩ := by
    rcases h with ⟨password, h⟩ | h
    · obtain ⟨x, hx, e, hi, -⟩ := ofCredentials_ok h
      exact ⟨x, hx, e, hi⟩
    · obtain ⟨x, hx, e, hi, -⟩ := ofAsserted_ok h
      exact ⟨x, hx, e, hi⟩
  obtain ⟨x, hx, e, rfl⟩ := hmade
  cases (Registry.get?_of_mem_candidates hx).symm.trans hd
  rfl

/-- Single sign-on makes it, where the server is the one that is asked. -/
theorem builds_of_listed {sid : String} (hd : r.get? sid = some d)
    (he : d.definition.enabled = true) (hc : c.sids = [sid]) (hname : Text.trim username ≠ "")
    (hfound : d.findEntry (Text.trim username) none = .ok (some e)) :
    Builds r c username ⟨e, Text.trim username, d.definition⟩ := by
  have hcandidates : r.candidates c = [d] := by
    unfold Registry.candidates
    cases c.mode <;> simp [hc, hd, he]
  refine .inr ?_
  simp [ofAsserted, hname, ofName, hcandidates, walk, askServer, hfound]

end Resolution

namespace Http.Portal

open Resolution (Builds)

variable {p : Portal} {m : Moment} {r : Request} {s : State} {d : Directory} {e : Entry}
  {sid name username : String} {search : Json}

/-! ## The search in a response -/

/-- The search that a response shows. -/
def searchOf? (response : Response) : Option Json :=
  match response.body with
  | .json v => (v.member? "data").bind (·.member? "search")
  | _ => none

/-- The search has found an entry. -/
def Finds (search : Json) : Prop := search.member? "found" = some (.bool true)

/-- The search shows a text, or that there is none. -/
def Shows (search : Json) (label : String) (text : Option String) : Prop :=
  search.member? label = some (.ofOption text)

/-- The search shows the account name, the mail address and the id of the identity. -/
structure ShowsIdentity (search : Json) (i : Identity) : Prop where
  name : Shows search "account_name" (some i.accountName)
  mail : Shows search "mail" i.mail
  id : Shows search "persistent_id" i.persistentId

/-- A request submits a user name to the test of a server. -/
def Submits (r : Request) (username : String) : Prop :=
  testRecord.reads.ofText r.body = .ok (some username)

theorem submits_of_testUsername? (h : testUsername? r = .ok (some name)) :
    ∃ username, Submits r username ∧ Text.nonBlank? username = some name := by
  unfold testUsername? at h
  split at h
  · cases h
  · cases hread : testRecord.reads.ofText r.body with
    | error fault =>
      rw [hread] at h
      cases h
    | ok submitted =>
      rw [hread] at h
      have hname : submitted.bind Text.nonBlank? = some name := Except.ok.inj h
      obtain ⟨username, rfl, hnonBlank⟩ := Option.bind_eq_some_iff.mp hname
      exact ⟨username, hread, hnonBlank⟩

theorem search_testDirectory (hconnected : d.testConnection.isOk = true) :
    ((testDirectory d sid (some name)).1.member? "search") =
      some (searchJson d name (d.findEntry name none)) := by
  cases htest : d.testConnection with
  | error e =>
    rw [htest] at hconnected
    cases hconnected
  | ok info =>
    simp only [testDirectory, htest]
    rfl

/-- A test shows a search where a user name is submitted and the server can be reached. -/
theorem searchOf?_testServer (hshort : r.isTooLong = false)
    (hname : testUsername? r = .ok (some name)) (hd : p.realm.registry.get? sid = some d)
    (hconnected : d.testConnection.isOk = true) :
    searchOf? (p.testServer sid r s).response =
      some (searchJson d name (d.findEntry name none)) := by
  simp only [testServer, hshort, hname, hd, Bool.false_eq_true, if_false]
  exact search_testDirectory hconnected

/-- A search that a test shows is one that was made. -/
theorem search_of_testServer (h : searchOf? (p.testServer sid r s).response = some search) :
    ∃ d name, p.realm.registry.get? sid = some d ∧ testUsername? r = .ok (some name) ∧
      search = searchJson d name (d.findEntry name none) := by
  unfold testServer at h
  split at h
  · cases h
  · split at h
    · cases h
    · rename_i submitted hsubmitted
      cases hd : p.realm.registry.get? sid with
      | none =>
        simp only [hd] at h
        cases h
      | some d =>
        simp only [hd] at h
        have hshown : (testDirectory d sid submitted).1.member? "search" = some search := h
        cases submitted with
        | none => cases hshown
        | some name =>
          cases htest : d.testConnection with
          | error error =>
            simp only [testDirectory, htest] at hshown
            cases hshown
          | ok info =>
            have hconnected : d.testConnection.isOk = true := by
              rw [htest]
              rfl
            rw [search_testDirectory hconnected] at hshown
            exact ⟨d, name, rfl, hsubmitted, (Option.some.inj hshown).symm⟩

/-! ## Through the layers -/

/-- The layers before a page do nothing to its body, unless only the headers are asked for. -/
theorem handle_body (p : Portal) (m : Moment) (s : State) (hm : r.method ≠ "HEAD") :
    (p.handle m r s).response.body =
      (p.serve m r (p.handedOn m r s).1 (p.handedOn m r s).2).response.body := by
  have hresponse := seamless_response p m r s (p.serve m r)
  show (fitMethod r (p.seamless m r s (p.serve m r)).response).body = _
  rw [fitMethod, if_neg (by simpa using hm), hresponse, withCookie]
  cases (p.handedOn m r s).1 <;> rfl

theorem searchOf?_congr {a b : Response} (h : a.body = b.body) : searchOf? a = searchOf? b := by
  rw [searchOf?, searchOf?, h]

/-- A search that is shown at the page of a server's test was made by the test. -/
theorem search_of_handle {encodedSid : String} (hm : r.method = "POST")
    (hroute : Route.ofPath? r.path = some (.serverTest encodedSid))
    (h : searchOf? (p.handle m r s).response = some search) :
    ∃ sid s', Text.percentDecode? encodedSid = some sid ∧
      searchOf? (p.testServer sid r s').response = some search := by
  rw [searchOf?_congr (handle_body p m s (by simp [hm]))] at h
  simp only [serve, hroute, answer, hm, beq_self_eq_true, if_true] at h
  split at h
  · cases h
  · cases hsid : Text.percentDecode? encodedSid with
    | none =>
      simp only [hsid] at h
      cases h
    | some sid =>
      simp only [hsid] at h
      exact ⟨sid, _, rfl, h⟩

/-- For the site owner the test is made. -/
theorem searchOf?_handle {encodedSid : String} (hm : r.method = "POST")
    (hroute : Route.ofPath? r.path = some (.serverTest encodedSid))
    (hsid : Text.percentDecode? encodedSid = some sid)
    (howner : FromOwner r (p.handedOn m r s).2.service) :
    searchOf? (p.handle m r s).response =
      searchOf? (p.testServer sid r (p.handedOn m r s).2).response := by
  have hsome : (ownerOf (p.handedOn m r s).2 r).isNone = false := by
    rw [← Option.not_isSome, isSome_ownerOf_iff.mpr howner, Bool.not_true]
  rw [searchOf?_congr (handle_body p m s (by simp [hm]))]
  simp only [serve, hroute, hsome, Bool.and_false, Bool.false_eq_true, if_false, answer, hm,
    beq_self_eq_true, if_true, hsid]

/-! ## What a search shows -/

theorem finds_searchJson_iff {found : Except DirectoryError (Option Entry)} :
    Finds (searchJson d name found) ↔ ∃ e, found = .ok (some e) := by
  cases found with
  | error error => simp [Finds, searchJson, Json.member?]
  | ok entry => cases entry <;> simp [Finds, searchJson, Json.member?]

theorem ofOption_inj {a b : Option String} : Json.ofOption a = Json.ofOption b ↔ a = b := by
  cases a <;> cases b <;> simp [Json.ofOption]

theorem shows_dn (d : Directory) (name : String) (e : Entry) :
    Shows (searchJson d name (.ok (some e))) "dn" (some e.dn) := rfl

/-- The entry has an account name, and this and its mail address and its id, as far as it has them,
can be taken over as they are. -/
structure Verbatim (x : ServerDefinition) (e : Entry) : Prop where
  name : ∃ value, e.value? x.accountNameAttr = some value ∧ Text.Tidy value
  mail : ∀ value, e.value? x.mailAttribute = some value → Text.Tidy value
  id : ∀ value, x.persistentAttribute.bind e.value? = some value → Text.Tidy value

/-- Trimming and passing over blank texts leaves a value exactly if it is tidy. -/
theorem eq_bind_nonBlank?_iff {value : Option String} :
    value = value.bind Text.nonBlank? ↔ ∀ text, value = some text → Text.Tidy text := by
  cases value with
  | none => simp
  | some text =>
    simp only [Option.bind_some, Option.some.injEq, forall_eq']
    exact ⟨fun h => Text.tidy_of_nonBlank? h.symm, fun h => h.nonBlank?.symm⟩

/-- An account name is taken over as it is if the entry has one that is tidy. The user name that a
login falls back on is none of the values that it passed over. -/
theorem eq_accountName_iff (hname : Text.Tidy name) :
    e.value? d.definition.accountNameAttr = some (Identity.mk e name d.definition).accountName ↔
      ∃ value, e.value? d.definition.accountNameAttr = some value ∧ Text.Tidy value := by
  unfold Identity.accountName Identity.text?
  cases hvalue : e.value? d.definition.accountNameAttr with
  | none => simp
  | some value =>
    simp only [Option.bind_some, Option.some.injEq, exists_eq_left']
    cases hblank : Text.nonBlank? value with
    | none =>
      refine iff_of_false (fun heq => ?_) fun htidy => ?_
      · rw [heq] at hblank
        cases hname.nonBlank?.symm.trans hblank
      · cases htidy.nonBlank?.symm.trans hblank
    | some text =>
      obtain ⟨htidy, htrim⟩ := Text.nonBlank?_eq_some_iff.mp hblank
      constructor
      · rintro rfl
        exact htidy
      · intro h
        exact h.trimmed.symm.trans htrim

/-- What is shown is one text, so no other one is shown. -/
theorem Shows.eq_iff {label : String} {value text : Option String} (h : Shows search label value) :
    Shows search label text ↔ value = text := by
  have hshown : search.member? label = some (.ofOption value) := h
  rw [Shows, hshown, Option.some.injEq, ofOption_inj]

theorem shows_accountName_iff {text : Option String} :
    Shows (searchJson d name (.ok (some e))) "account_name" text ↔
      e.value? d.definition.accountNameAttr = text :=
  Shows.eq_iff rfl

theorem shows_mail_iff {text : Option String} :
    Shows (searchJson d name (.ok (some e))) "mail" text ↔
      e.value? d.definition.mailAttribute = text :=
  Shows.eq_iff rfl

theorem shows_persistentId_iff {text : Option String} :
    Shows (searchJson d name (.ok (some e))) "persistent_id" text ↔
      d.definition.persistentAttribute.bind e.value? = text :=
  Shows.eq_iff rfl

theorem showsIdentity_iff (hname : Text.Tidy name) :
    ShowsIdentity (searchJson d name (.ok (some e))) ⟨e, name, d.definition⟩ ↔
      Verbatim d.definition e := by
  have hid : (Identity.mk e name d.definition).persistentId =
      (d.definition.persistentAttribute.bind e.value?).bind Text.nonBlank? :=
    (Option.bind_assoc _ _ _).symm
  constructor
  · rintro ⟨haccount, hmail, hpersistent⟩
    rw [shows_persistentId_iff, hid] at hpersistent
    exact ⟨(eq_accountName_iff hname).mp (shows_accountName_iff.mp haccount),
      eq_bind_nonBlank?_iff.mp (shows_mail_iff.mp hmail), eq_bind_nonBlank?_iff.mp hpersistent⟩
  · rintro ⟨haccount, hmail, hpersistent⟩
    refine ⟨shows_accountName_iff.mpr ((eq_accountName_iff hname).mpr haccount),
      shows_mail_iff.mpr (eq_bind_nonBlank?_iff.mpr hmail), shows_persistentId_iff.mpr ?_⟩
    rw [hid]
    exact eq_bind_nonBlank?_iff.mpr hpersistent

/-- The search that the test of a server shows for an entry, and the identity of that entry in a
login under the submitted name. -/
structure Compares (p : Portal) (sid : String) (username : String) (search : Json) (i : Identity) :
    Prop where
  registered : ∃ d, p.realm.registry.get? sid = some d ∧ d.definition = i.definition ∧
    d.findEntry (Text.trim username) none = .ok (some i.entry)
  dn : Shows search "dn" (some i.entry.dn)
  /-- No login makes another identity of the entry. -/
  unique : ∀ c j, Builds p.realm.registry c username j → j.sid = sid → j.entry = i.entry → j = i
  /-- A login comes to the identity where the server is the only one to be asked. -/
  built : i.definition.enabled = true → ∀ c : Authentication, c.sids = [sid] →
    Builds p.realm.registry c username i

theorem compares_of_found (hd : p.realm.registry.get? sid = some d)
    (hname : Text.nonBlank? username = some name) (hfound : d.findEntry name none = .ok (some e)) :
    Compares p sid username (searchJson d name (.ok (some e))) ⟨e, name, d.definition⟩ := by
  obtain ⟨htidy, rfl⟩ := Text.nonBlank?_eq_some_iff.mp hname
  refine ⟨⟨d, hd, rfl, hfound⟩, shows_dn d _ e, ?_, ?_⟩
  · rintro c j hj rfl rfl
    exact hj.eq hd
  · intro henabled c hc
    exact Resolution.builds_of_listed hd henabled hc htidy.ne_empty hfound

/-- Where the test of a server finds an entry, it shows what a login under the same name would use
exactly if the entry's account name, mail address and id can be taken over as they are, and there
is an account name. -/
theorem search_shows_identity_iff {encodedSid : String} (hm : r.method = "POST")
    (hroute : Route.ofPath? r.path = some (.serverTest encodedSid))
    (h : searchOf? (p.handle m r s).response = some search) (hfinds : Finds search) :
    ∃ sid username i, Text.percentDecode? encodedSid = some sid ∧ Submits r username ∧
      Compares p sid username search i ∧
      (ShowsIdentity search i ↔ Verbatim i.definition i.entry) := by
  obtain ⟨sid, s', hsid, htest⟩ := search_of_handle hm hroute h
  obtain ⟨d, name, hd, htested, rfl⟩ := search_of_testServer htest
  obtain ⟨username, hsubmits, hname⟩ := submits_of_testUsername? htested
  obtain ⟨e, hfound⟩ := finds_searchJson_iff.mp hfinds
  rw [hfound]
  exact ⟨sid, username, ⟨e, name, d.definition⟩, hsid, hsubmits, compares_of_found hd hname hfound,
    showsIdentity_iff (Text.tidy_of_nonBlank? hname)⟩

end Http.Portal

/-! ## Tests of the sample server -/

open Http Http.Portal

namespace Sample

/-- A person whose account is named by an attribute of its own. -/
def namedMember : StoredEntry :=
  ⟨⟨"cn=hpotter,dc=hogwarts,dc=edu", "hogwarts",
    [("uid", ["hpotter"]), ("displayName", ["Harry"]), ("mail", ["harry@hogwarts.edu"])]⟩, "pass"⟩

/-- A person without this attribute, with white space around the mail address and a blank id. -/
def paddedMember : StoredEntry :=
  ⟨⟨"cn=snape,dc=hogwarts,dc=edu", "hogwarts",
    [("uid", ["snape"]), ("mail", [" snape@hogwarts.edu"]), ("entryUUID", [" "])]⟩, "pass"⟩

def testedDefinition : ServerDefinition :=
  { ServerDefinition.preset "hogwarts" .openLdap "ldap://hogwarts.edu" "dc=hogwarts,dc=edu" with
    accountNameAttribute := some "displayName" }

/-- What a login as this person would make of the entry. -/
def paddedIdentity : Identity := ⟨paddedMember.entry, "snape", testedDefinition⟩

def testedDirectory : Directory :=
  (Tree.mk testedDefinition [namedMember, paddedMember] false).toDirectory

/-- The sample portal with these two on its server. -/
def testedPortal : Portal := { portal with realm := ⟨.ofList [testedDirectory], .none, []⟩ }

/-- The owner tests the server with a user name. -/
def testRequest (username : String) : Request :=
  ⟨"POST", ⟨"/api/v1/servers/hogwarts/test", none⟩, [("authorization", "Basic YWRtaW46c2VjcmV0")],
    "\x7b\"username\":\"" ++ username ++ "\"\x7d"⟩

theorem namedMember_verbatim : Verbatim testedDefinition namedMember.entry where
  name := ⟨"Harry", rfl, by decide, by decide +kernel⟩
  mail := by
    rintro value ⟨⟩
    exact ⟨by decide, by decide +kernel⟩
  id := by
    rintro value ⟨⟩

theorem testRequest_route (username : String) :
    Route.ofPath? (testRequest username).path = some (.serverTest "hogwarts") := by
  show Route.ofPath? "/api/v1/servers/hogwarts/test" = _
  decide +kernel

theorem testRequest_credentials (username : String) :
    (testRequest username).basicCredentials = some ("admin", "secret") := by
  have hheader : (testRequest username).header? "authorization" =
      some "Basic YWRtaW46c2VjcmV0" := rfl
  rw [Request.basicCredentials, hheader]
  decide +kernel

end Sample

/-- A test by the owner shows what the server found. -/
theorem sample_search {username : String} {e : Entry}
    (hname : testUsername? (Sample.testRequest username) = .ok (some username))
    (hshort : (Sample.testRequest username).isTooLong = false)
    (hfound : Sample.testedDirectory.findEntry username none = .ok (some e)) :
    searchOf? (Sample.testedPortal.handle Sample.moment (Sample.testRequest username)
      Sample.ownedState).response =
        some (searchJson Sample.testedDirectory username (.ok (some e))) := by
  -- The layers before the test do not look at the body of the request.
  have htries : triesByItself Sample.moment (Sample.testRequest "") Sample.ownedState = false := by
    decide +kernel
  have hhanded : (Sample.testedPortal.handedOn Sample.moment (Sample.testRequest username)
      Sample.ownedState).2.service = Sample.ownedState.service := by
    have hsame : triesByItself Sample.moment (Sample.testRequest username) Sample.ownedState =
        triesByItself Sample.moment (Sample.testRequest "") Sample.ownedState := rfl
    simp only [handedOn, hsame, htries, Bool.false_eq_true, if_false]
    exact sessionOf_service _ _ _
  have howner : FromOwner (Sample.testRequest username) Sample.ownedState.service :=
    ⟨"admin", "secret", Sample.owner "secret", Sample.testRequest_credentials username,
      Service.verifySiteOwner_eq_ok_iff.mpr (owned_credentials "secret")⟩
  have hsid : Text.percentDecode? "hogwarts" = some "hogwarts" := by decide +kernel
  have hd : Sample.testedPortal.realm.registry.get? "hogwarts" = some Sample.testedDirectory := rfl
  rw [← hhanded] at howner
  rw [searchOf?_handle rfl (Sample.testRequest_route username) hsid howner,
    searchOf?_testServer hshort hname hd rfl, hfound]

theorem sample_submits : testUsername? (Sample.testRequest "hpotter") = .ok (some "hpotter") ∧
    testUsername? (Sample.testRequest "snape") = .ok (some "snape") := by
  rw [← toOption_eq_some_iff, ← toOption_eq_some_iff]
  decide +kernel

/-- What is shown of the member with an account name is what a login would use. -/
theorem sample_search_shows_identity :
    (Sample.testRequest "hpotter").method = "POST" ∧
      Route.ofPath? (Sample.testRequest "hpotter").path = some (.serverTest "hogwarts") ∧
      ∃ search i, searchOf? (Sample.testedPortal.handle Sample.moment
          (Sample.testRequest "hpotter") Sample.ownedState).response = some search ∧
        Finds search ∧ Compares Sample.testedPortal "hogwarts" "hpotter" search i ∧
        ShowsIdentity search i := by
  have hfound : Sample.testedDirectory.findEntry "hpotter" none =
      .ok (some Sample.namedMember.entry) := rfl
  have hsearch := sample_search sample_submits.1 (by decide +kernel) hfound
  have hfinds : Finds (searchJson Sample.testedDirectory "hpotter"
      (.ok (some Sample.namedMember.entry))) := rfl
  obtain ⟨sid, username, i, hsid, hsubmits, hcompares, hshows⟩ :=
    search_shows_identity_iff rfl (Sample.testRequest_route _) hsearch hfinds
  obtain rfl : "hogwarts" = sid := by
    have h : Text.percentDecode? "hogwarts" = some "hogwarts" := by decide +kernel
    exact Option.some.inj (h.symm.trans hsid)
  obtain rfl : "hpotter" = username := by
    have h : (testRecord.reads.ofText (Sample.testRequest "hpotter").body).toOption =
        some (some "hpotter") := by
      decide +kernel
    exact Option.some.inj (Except.ok.inj ((toOption_eq_some_iff.mp h).symm.trans hsubmits))
  have hverbatim : Verbatim i.definition i.entry := by
    obtain ⟨d, hd, hdefinition, hentry⟩ := hcompares.registered
    obtain rfl : Sample.testedDirectory = d := Option.some.inj hd
    have htrim : Text.trim "hpotter" = "hpotter" := by decide +kernel
    rw [htrim, hfound] at hentry
    have hnamed : Sample.namedMember.entry = i.entry := Option.some.inj (Except.ok.inj hentry)
    rw [← hdefinition, ← hnamed]
    exact Sample.namedMember_verbatim
  exact ⟨rfl, Sample.testRequest_route _, _, i, hsearch, hfinds, hcompares,
    hshows.mpr hverbatim⟩

/-- Of the other member the test shows no account name, and a mail address and an id that no login
would use. -/
theorem padded_values_shown :
    ∃ search, searchOf? (Sample.testedPortal.handle Sample.moment (Sample.testRequest "snape")
        Sample.ownedState).response = some search ∧ Finds search ∧
      Compares Sample.testedPortal "hogwarts" "snape" search Sample.paddedIdentity ∧
      ¬ Shows search "account_name" (some Sample.paddedIdentity.accountName) ∧
      ¬ Shows search "mail" Sample.paddedIdentity.mail ∧
      ¬ Shows search "persistent_id" Sample.paddedIdentity.persistentId := by
  have hfound : Sample.testedDirectory.findEntry "snape" none =
      .ok (some Sample.paddedMember.entry) := rfl
  have hd : Sample.testedPortal.realm.registry.get? "hogwarts" = some Sample.testedDirectory := rfl
  have hname : Text.nonBlank? "snape" = some "snape" := by decide +kernel
  refine ⟨_, sample_search sample_submits.2 (by decide +kernel) hfound, rfl,
    compares_of_found hd hname hfound, ?_⟩
  rw [shows_accountName_iff, shows_mail_iff, shows_persistentId_iff]
  decide +kernel

end DirectoryLogin
