import DirectoryLogin.Settings.Codec
import DirectoryLogin.Text.Lines

/-!
# The settings form

An editor sees authentication settings as a flat form in which a list is a text with one item on
each line and an optional text is empty when absent. `toSettings` reads a submitted form, and
`ofSettings` fills one in. Whether predicates may be evaluated is no part of the form, so it is
taken over from the settings in force.
-/

namespace DirectoryLogin.Settings

open Json (Reads Record)

structure Form where
  mode : AuthenticationMode
  sids : List String
  allowOnlyIfTextInDn : String
  excludeIfTextInDn : String
  excludeIfNoAuthorizations : Bool
  allowPredicate : String
  mailUpdate : MailUpdate
  mailTemplate : String
  accountCreation : AccountCreation
  existingAccount : ExistingAccount
  helpLinkUrl : String
  helpLinkText : String
  ssoEnabled : Bool
  ssoRemoteUserHeader : String
  ssoStripDomainName : Bool
  ssoImplementation : SsoModule
  ssoSeamlessLogin : SeamlessLogin
  ssoExcludedPaths : String
  ssoExcludedHosts : String
  ssoNotifyAuthentication : Bool
  deriving DecidableEq, Repr

namespace Form

/-- The settings that a form describes. -/
def toSettings (f : Form) (current : Authentication) : Authentication where
  mode := f.mode
  sids := f.sids.filter (!Text.isBlankText ·)
  allowOnlyIfTextInDn := Text.items f.allowOnlyIfTextInDn
  excludeIfTextInDn := Text.items f.excludeIfTextInDn
  excludeIfNoAuthorizations := f.excludeIfNoAuthorizations
  allowPredicate := Text.nonBlank? f.allowPredicate
  predicateEvaluatorEnabled := current.predicateEvaluatorEnabled
  mailUpdate := f.mailUpdate
  mailTemplate := Text.nonBlank? f.mailTemplate
  accountCreation := f.accountCreation
  existingAccount := f.existingAccount
  helpLinkUrl := Text.nonBlank? f.helpLinkUrl
  helpLinkText := Text.nonBlank? f.helpLinkText
  sso := {
    enabled := f.ssoEnabled
    remoteUserHeader := (Text.nonBlank? f.ssoRemoteUserHeader).getD defaultRemoteUserHeader
    stripDomainName := f.ssoStripDomainName
    implementation := f.ssoImplementation
    seamlessLogin := f.ssoSeamlessLogin
    excludedPaths := Text.items f.ssoExcludedPaths
    excludedHosts := Text.items f.ssoExcludedHosts
    notifyAuthentication := f.ssoNotifyAuthentication }

/-- The form filled in with settings. -/
def ofSettings (c : Authentication) : Form where
  mode := c.mode
  sids := c.sids
  allowOnlyIfTextInDn := Text.ofItems c.allowOnlyIfTextInDn
  excludeIfTextInDn := Text.ofItems c.excludeIfTextInDn
  excludeIfNoAuthorizations := c.excludeIfNoAuthorizations
  allowPredicate := c.allowPredicate.getD ""
  mailUpdate := c.mailUpdate
  mailTemplate := c.mailTemplate.getD ""
  accountCreation := c.accountCreation
  existingAccount := c.existingAccount
  helpLinkUrl := c.helpLinkUrl.getD ""
  helpLinkText := c.helpLinkText.getD ""
  ssoEnabled := c.sso.enabled
  ssoRemoteUserHeader := c.sso.remoteUserHeader
  ssoStripDomainName := c.sso.stripDomainName
  ssoImplementation := c.sso.implementation
  ssoSeamlessLogin := c.sso.seamlessLogin
  ssoExcludedPaths := Text.ofItems c.sso.excludedPaths
  ssoExcludedHosts := Text.ofItems c.sso.excludedHosts
  ssoNotifyAuthentication := c.sso.notifyAuthentication

def record : Record Form :=
  Form.mk <$> .field "authentication_mode" (.choice AuthenticationMode.names) .mixed
    <*> .field "sids" (.list .string) []
    <*> .field "allow_only_if_text_in_dn" .string ""
    <*> .field "exclude_if_text_in_dn" .string ""
    <*> .field "exclude_if_no_authorizations" .bool false
    <*> .field "allow_predicate" .string ""
    <*> .field "email_update" (.choice MailUpdate.names) .onEveryLogin
    <*> .field "mail_template" .string ""
    <*> .field "account_creation" (.choice AccountCreation.names) .createOnLogin
    <*> .field "existing_account" (.choice ExistingAccount.names) .reject
    <*> .field "help_link_url" .string ""
    <*> .field "help_link_text" .string ""
    <*> .field "sso_enabled" .bool false
    <*> .field "sso_remote_user_header" .string ""
    <*> .field "sso_strip_domain_name" .bool false
    <*> .field "sso_implementation" (.choice SsoModule.names) .sspi
    <*> .field "sso_seamless_login" (.choice SeamlessLogin.names) .off
    <*> .field "sso_excluded_paths" .string ""
    <*> .field "sso_excluded_hosts" .string ""
    <*> .field "sso_notify_authentication" .bool false

def toJson (f : Form) : Json := .object [
  ("authentication_mode", .string f.mode.name),
  ("sids", .strings f.sids),
  ("allow_only_if_text_in_dn", .string f.allowOnlyIfTextInDn),
  ("exclude_if_text_in_dn", .string f.excludeIfTextInDn),
  ("exclude_if_no_authorizations", .bool f.excludeIfNoAuthorizations),
  ("allow_predicate", .string f.allowPredicate),
  ("email_update", .string f.mailUpdate.name),
  ("mail_template", .string f.mailTemplate),
  ("account_creation", .string f.accountCreation.name),
  ("existing_account", .string f.existingAccount.name),
  ("help_link_url", .string f.helpLinkUrl),
  ("help_link_text", .string f.helpLinkText),
  ("sso_enabled", .bool f.ssoEnabled),
  ("sso_remote_user_header", .string f.ssoRemoteUserHeader),
  ("sso_strip_domain_name", .bool f.ssoStripDomainName),
  ("sso_implementation", .string f.ssoImplementation.name),
  ("sso_seamless_login", .string f.ssoSeamlessLogin.name),
  ("sso_excluded_paths", .string f.ssoExcludedPaths),
  ("sso_excluded_hosts", .string f.ssoExcludedHosts),
  ("sso_notify_authentication", .bool f.ssoNotifyAuthentication)]

end Form

end DirectoryLogin.Settings
