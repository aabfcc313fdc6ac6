import DirectoryLogin.Json.Record
import DirectoryLogin.Settings.Authentication

/-!
# Authentication settings as JSON

Writing lists every field in its order; reading lets any of them be absent.
-/

namespace DirectoryLogin.Settings

open Json (Reads Record)

namespace Sso

def record : Record Sso :=
  Sso.mk <$> .field "enabled" .bool false
    <*> .field "remote_user_header" .string defaultRemoteUserHeader
    <*> .field "strip_domain_name" .bool false
    <*> .field "implementation" (.choice SsoModule.names) .sspi
    <*> .field "seamless_login" (.choice SeamlessLogin.names) .off
    <*> .field "excluded_paths" (.list .string) []
    <*> .field "excluded_hosts" (.list .string) []
    <*> .field "notify_authentication" .bool false

def toJson (c : Sso) : Json := .object [
  ("enabled", .bool c.enabled),
  ("remote_user_header", .string c.remoteUserHeader),
  ("strip_domain_name", .bool c.stripDomainName),
  ("implementation", .string c.implementation.name),
  ("seamless_login", .string c.seamlessLogin.name),
  ("excluded_paths", .strings c.excludedPaths),
  ("excluded_hosts", .strings c.excludedHosts),
  ("notify_authentication", .bool c.notifyAuthentication)]

end Sso

namespace Authentication

def record : Record Authentication :=
  Authentication.mk <$> .field "authentication_mode" (.choice AuthenticationMode.names) .mixed
    <*> .field "sids" (.list .string) []
    <*> .field "allow_only_if_text_in_dn" (.list .string) []
    <*> .field "exclude_if_text_in_dn" (.list .string) []
    <*> .field "exclude_if_no_authorizations" .bool false
    <*> .field "allow_predicate" (.option .string) none
    <*> .field "predicate_evaluator_enabled" .bool true
    <*> .field "email_update" (.choice MailUpdate.names) .onEveryLogin
    <*> .field "mail_template" (.option .string) none
    <*> .field "account_creation" (.choice AccountCreation.names) .createOnLogin
    <*> .field "existing_account" (.choice ExistingAccount.names) .reject
    <*> .field "help_link_url" (.option .string) none
    <*> .field "help_link_text" (.option .string) none
    <*> .field "sso" Sso.record.reads .default

def toJson (c : Authentication) : Json := .object [
  ("authentication_mode", .string c.mode.name),
  ("sids", .strings c.sids),
  ("allow_only_if_text_in_dn", .strings c.allowOnlyIfTextInDn),
  ("exclude_if_text_in_dn", .strings c.excludeIfTextInDn),
  ("exclude_if_no_authorizations", .bool c.excludeIfNoAuthorizations),
  ("allow_predicate", .ofOption c.allowPredicate),
  ("predicate_evaluator_enabled", .bool c.predicateEvaluatorEnabled),
  ("email_update", .string c.mailUpdate.name),
  ("mail_template", .ofOption c.mailTemplate),
  ("account_creation", .string c.accountCreation.name),
  ("existing_account", .string c.existingAccount.name),
  ("help_link_url", .ofOption c.helpLinkUrl),
  ("help_link_text", .ofOption c.helpLinkText),
  ("sso", c.sso.toJson)]

end Authentication

end DirectoryLogin.Settings
