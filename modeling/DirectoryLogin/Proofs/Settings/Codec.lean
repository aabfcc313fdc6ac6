import DirectoryLogin.Json.Document
import DirectoryLogin.Proofs.Json.Record
import DirectoryLogin.Proofs.Json.RoundTrip
import DirectoryLogin.Settings.Codec

/-!
# Authentication settings are read back

What `toJson` writes of settings, `record` reads as the same settings, in every field and for every
text in them (`Authentication.record_toJson`). Since nothing that is written is a number, the same
holds of the printed text (`Authentication.ofText_print`).
-/

namespace DirectoryLogin

open Json (Dialect Plain Reads)
open Json.Record (Finds)

/-! ## Plain values -/

theorem Json.Plain.strings (values : List String) : Plain (.strings values) := by
  refine .array fun v hv => ?_
  obtain ⟨s, -, rfl⟩ := List.mem_map.mp hv
  exact .string s

theorem Json.Plain.ofOption (value : Option String) : Plain (.ofOption value) := by
  cases value with
  | some s => exact .string s
  | none => exact .null

namespace Settings

/-! ## Choices -/

theorem AuthenticationMode.spells : Reads.Spells names name := by intro a; cases a <;> rfl

theorem MailUpdate.spells : Reads.Spells names name := by intro a; cases a <;> rfl

theorem AccountCreation.spells : Reads.Spells names name := by intro a; cases a <;> rfl

theorem ExistingAccount.spells : Reads.Spells names name := by intro a; cases a <;> rfl

theorem SsoModule.spells : Reads.Spells names name := by intro a; cases a <;> rfl

theorem SeamlessLogin.spells : Reads.Spells names name := by intro a; cases a <;> rfl

/-! ## Single sign-on -/

namespace Sso

theorem record_toJson (d : Dialect) (c : Sso) : record.reads d c.toJson = .ok c := by
  have finds := Finds.field "enabled" (Reads.bool_bool (d := d) c.enabled) false
    |>.map Sso.mk
    |>.seq (.field "remote_user_header" (Reads.string_string c.remoteUserHeader)
      defaultRemoteUserHeader)
    |>.seq (.field "strip_domain_name" (Reads.bool_bool c.stripDomainName) false)
    |>.seq (.field "implementation" (Reads.choice_name SsoModule.spells c.implementation) .sspi)
    |>.seq (.field "seamless_login" (Reads.choice_name SeamlessLogin.spells c.seamlessLogin) .off)
    |>.seq (.field "excluded_paths" (Reads.list_strings c.excludedPaths) [])
    |>.seq (.field "excluded_hosts" (Reads.list_strings c.excludedHosts) [])
    |>.seq (.field "notify_authentication" (Reads.bool_bool c.notifyAuthentication) false)
  exact finds.reads (by decide)

theorem plain_toJson (c : Sso) : Plain c.toJson := by
  refine .object ?_
  simp only [List.forall_mem_cons, List.not_mem_nil, false_implies, implies_true, and_true]
  exact ⟨.bool _, .string _, .bool _, .string _, .string _, .strings _, .strings _, .bool _⟩

end Sso

/-! ## All settings -/

namespace Authentication

theorem record_toJson (d : Dialect) (c : Authentication) : record.reads d c.toJson = .ok c := by
  have finds := Finds.field "authentication_mode"
      (Reads.choice_name (d := d) AuthenticationMode.spells c.mode) .mixed
    |>.map Authentication.mk
    |>.seq (.field "sids" (Reads.list_strings c.sids) [])
    |>.seq (.field "allow_only_if_text_in_dn" (Reads.list_strings c.allowOnlyIfTextInDn) [])
    |>.seq (.field "exclude_if_text_in_dn" (Reads.list_strings c.excludeIfTextInDn) [])
    |>.seq (.field "exclude_if_no_authorizations" (Reads.bool_bool c.excludeIfNoAuthorizations)
      false)
    |>.seq (.field "allow_predicate" (Reads.option_ofOption c.allowPredicate) none)
    |>.seq (.field "predicate_evaluator_enabled" (Reads.bool_bool c.predicateEvaluatorEnabled) true)
    |>.seq (.field "email_update" (Reads.choice_name MailUpdate.spells c.mailUpdate) .onEveryLogin)
    |>.seq (.field "mail_template" (Reads.option_ofOption c.mailTemplate) none)
    |>.seq (.field "account_creation" (Reads.choice_name AccountCreation.spells c.accountCreation)
      .createOnLogin)
    |>.seq (.field "existing_account" (Reads.choice_name ExistingAccount.spells c.existingAccount)
      .reject)
    |>.seq (.field "help_link_url" (Reads.option_ofOption c.helpLinkUrl) none)
    |>.seq (.field "help_link_text" (Reads.option_ofOption c.helpLinkText) none)
    |>.seq (.field "sso" (Sso.record_toJson d c.sso) .default)
  exact finds.reads (by decide)

theorem plain_toJson (c : Authentication) : Plain c.toJson := by
  refine .object ?_
  simp only [List.forall_mem_cons, List.not_mem_nil, false_implies, implies_true, and_true]
  exact ⟨.string _, .strings _, .strings _, .strings _, .bool _, .ofOption _, .bool _, .string _,
    .ofOption _, .string _, .string _, .ofOption _, .ofOption _, c.sso.plain_toJson⟩

theorem ofText_print (c : Authentication) : record.reads.ofText c.toJson.print = .ok c := by
  simp only [Reads.ofText, Reads.text, Json.read_print c.plain_toJson, record_toJson]
  rfl

end Authentication

end Settings

end DirectoryLogin
