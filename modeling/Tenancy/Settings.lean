import Tenancy.Json.Record

/-!
# Settings

Everything that can be set about the service. Each section starts from its defaults and takes over
what is given; a name that no section has is refused, so that a misspelt setting does not go
unnoticed.
-/

namespace Tenancy

open Json (Codec Field Record)

/-- How the admin token is obtained. -/
inductive GrantType where
  | clientCredentials
  | password
  deriving DecidableEq, Repr

namespace GrantType

/-- The grant's name in a token request. -/
def text : GrantType → String
  | .clientCredentials => "client_credentials"
  | .password => "password"

/-- Grants in JSON. -/
def codec : Codec GrantType :=
  .choice [("client_credentials", .clientCredentials), ("password", .password)]

end GrantType

/-- How the identity provider is reached and who administers it. -/
structure ProviderSettings where
  baseUrl : String
  adminRealm : String
  clientId : String
  grantType : GrantType
  username : String
  /-- Where the secret store keeps the admin client's secret. -/
  clientSecretKey : String
  /-- Where the secret store keeps the admin user's password. -/
  passwordKey : String
  connectTimeoutMs : UInt64
  requestTimeoutMs : UInt64
  deriving DecidableEq, Repr

namespace ProviderSettings

/-- A provider on this host, administered by its built-in command-line client. -/
def default : ProviderSettings where
  baseUrl := "http://localhost:8080"
  adminRealm := "master"
  clientId := "admin-cli"
  grantType := .password
  username := "admin"
  clientSecretKey := "keycloak-admin-client-secret"
  passwordKey := "keycloak-admin-password"
  connectTimeoutMs := 5000
  requestTimeoutMs := 30000

/-- The section's wire form. -/
def record : Record ProviderSettings where
  name := "KeycloakConfig"
  fields :=
    [.defaulted "base_url" .string (·.baseUrl) fun v s => { s with baseUrl := v },
     .defaulted "admin_realm" .string (·.adminRealm) fun v s => { s with adminRealm := v },
     .defaulted "client_id" .string (·.clientId) fun v s => { s with clientId := v },
     .defaulted "grant_type" GrantType.codec (·.grantType) fun v s => { s with grantType := v },
     .defaulted "username" .string (·.username) fun v s => { s with username := v },
     .defaulted "client_secret_key" .string (·.clientSecretKey)
       fun v s => { s with clientSecretKey := v },
     .defaulted "password_key" .string (·.passwordKey) fun v s => { s with passwordKey := v },
     .defaulted "connect_timeout_ms" .uint64 (·.connectTimeoutMs)
       fun v s => { s with connectTimeoutMs := v },
     .defaulted "request_timeout_ms" .uint64 (·.requestTimeoutMs)
       fun v s => { s with requestTimeoutMs := v }]
  blank := default
  strict := true

end ProviderSettings

/-- Session and token lifetimes of a realm, in seconds. -/
structure Lifetimes where
  accessTokenLifespan : UInt32
  ssoSessionIdleTimeout : UInt32
  ssoSessionMaxLifespan : UInt32
  clientSessionIdleTimeout : UInt32
  clientSessionMaxLifespan : UInt32
  offlineSessionIdleTimeout : UInt32
  deriving DecidableEq, Repr

namespace Lifetimes

/-- Five minutes for a token, half an hour idle, ten hours at most, thirty days offline. -/
def default : Lifetimes where
  accessTokenLifespan := 300
  ssoSessionIdleTimeout := 1800
  ssoSessionMaxLifespan := 36000
  clientSessionIdleTimeout := 0
  clientSessionMaxLifespan := 0
  offlineSessionIdleTimeout := 2592000

/-- The section's wire form. -/
def record : Record Lifetimes where
  name := "RealmConfig"
  fields :=
    [.defaulted "access_token_lifespan" .uint32 (·.accessTokenLifespan)
       fun v s => { s with accessTokenLifespan := v },
     .defaulted "sso_session_idle_timeout" .uint32 (·.ssoSessionIdleTimeout)
       fun v s => { s with ssoSessionIdleTimeout := v },
     .defaulted "sso_session_max_lifespan" .uint32 (·.ssoSessionMaxLifespan)
       fun v s => { s with ssoSessionMaxLifespan := v },
     .defaulted "client_session_idle_timeout" .uint32 (·.clientSessionIdleTimeout)
       fun v s => { s with clientSessionIdleTimeout := v },
     .defaulted "client_session_max_lifespan" .uint32 (·.clientSessionMaxLifespan)
       fun v s => { s with clientSessionMaxLifespan := v },
     .defaulted "offline_session_idle_timeout" .uint32 (·.offlineSessionIdleTimeout)
       fun v s => { s with offlineSessionIdleTimeout := v }]
  blank := default
  strict := true

end Lifetimes

/-- Ids, role names and token settings of a realm's clients. -/
structure ClientSettings where
  moduleClientId : String
  /-- A template: the realm's name takes the place of every placeholder in it. -/
  loginClientId : String
  impersonationClientId : String
  passwordResetClientId : String
  systemRole : String
  passwordResetRole : String
  /-- The token lifetime of the module, login and impersonation clients, in seconds. -/
  accessTokenLifespan : UInt32
  useRefreshTokens : Bool
  /-- The token lifetime of the password-reset client, in seconds. -/
  passwordResetTokenLifespan : UInt32
  passwordResetUseRefreshTokens : Bool
  /-- The name of the built-in mapper that the password-reset client is given. -/
  passwordResetMapper : String
  deriving DecidableEq, Repr

namespace ClientSettings

/-- What stands for the realm's name in the login client's id. -/
def placeholder : String := "\x7brealm\x7d"

/-- The usual clients and roles. -/
def default : ClientSettings where
  moduleClientId := "sidecar-module-access-client"
  loginClientId := "\x7brealm\x7d-login-application"
  impersonationClientId := "impersonation-client"
  passwordResetClientId := "password-reset-client"
  systemRole := "System"
  passwordResetRole := "Password Reset"
  accessTokenLifespan := 300
  useRefreshTokens := true
  passwordResetTokenLifespan := 86400
  passwordResetUseRefreshTokens := false
  passwordResetMapper := "Client ID"

/-- The section's wire form. -/
def record : Record ClientSettings where
  name := "ClientsConfig"
  fields :=
    [.defaulted "module_client_id" .string (·.moduleClientId)
       fun v s => { s with moduleClientId := v },
     .defaulted "login_client_id" .string (·.loginClientId) fun v s => { s with loginClientId := v },
     .defaulted "impersonation_client_id" .string (·.impersonationClientId)
       fun v s => { s with impersonationClientId := v },
     .defaulted "password_reset_client_id" .string (·.passwordResetClientId)
       fun v s => { s with passwordResetClientId := v },
     .defaulted "system_role" .string (·.systemRole) fun v s => { s with systemRole := v },
     .defaulted "password_reset_role" .string (·.passwordResetRole)
       fun v s => { s with passwordResetRole := v },
     .defaulted "access_token_lifespan" .uint32 (·.accessTokenLifespan)
       fun v s => { s with accessTokenLifespan := v },
     .defaulted "use_refresh_tokens" .bool (·.useRefreshTokens)
       fun v s => { s with useRefreshTokens := v },
     .defaulted "password_reset_token_lifespan" .uint32 (·.passwordResetTokenLifespan)
       fun v s => { s with passwordResetTokenLifespan := v },
     .defaulted "password_reset_use_refresh_tokens" .bool (·.passwordResetUseRefreshTokens)
       fun v s => { s with passwordResetUseRefreshTokens := v },
     .defaulted "password_reset_mapper" .string (·.passwordResetMapper)
       fun v s => { s with passwordResetMapper := v }]
  blank := default
  strict := true

/-- Puts `new` in place of every occurrence of `old`, from the left and without overlaps; what was
put in is not searched again. The counter holds back the characters of an occurrence that has just
been replaced. -/
def replaceFrom (old new : List Char) : Nat → List Char → List Char
  | _, [] => []
  | held + 1, _ :: rest => replaceFrom old new held rest
  | 0, c :: rest =>
    if old.isPrefixOf (c :: rest) then new ++ replaceFrom old new (old.length - 1) rest
    else c :: replaceFrom old new 0 rest

/-- Whether `part` occurs in a text. -/
def occursIn (part : List Char) : List Char → Bool
  | [] => part.isEmpty
  | c :: rest => part.isPrefixOf (c :: rest) || occursIn part rest

/-- The id of a realm's login client. -/
def loginClientIdFor (s : ClientSettings) (realm : String) : String :=
  String.ofList (replaceFrom placeholder.toList realm.toList 0 s.loginClientId.toList)

/-- Whether login clients of different realms have different ids. -/
def namesRealm (s : ClientSettings) : Bool := occursIn placeholder.toList s.loginClientId.toList

end ClientSettings

/-- Whether there is a tenant registry, and how it is reached. -/
structure RegistrySettings where
  enabled : Bool
  baseUrl : String
  requestTimeoutMs : UInt64
  deriving DecidableEq, Repr

namespace RegistrySettings

/-- No registry. -/
def default : RegistrySettings where
  enabled := false
  baseUrl := "http://localhost:9130"
  requestTimeoutMs := 10000

/-- The section's wire form. -/
def record : Record RegistrySettings where
  name := "RegistryConfig"
  fields :=
    [.defaulted "enabled" .bool (·.enabled) fun v s => { s with enabled := v },
     .defaulted "base_url" .string (·.baseUrl) fun v s => { s with baseUrl := v },
     .defaulted "request_timeout_ms" .uint64 (·.requestTimeoutMs)
       fun v s => { s with requestTimeoutMs := v }]
  blank := default
  strict := true

end RegistrySettings

/-- All settings. -/
structure Settings where
  provider : ProviderSettings
  realm : Lifetimes
  clients : ClientSettings
  registry : RegistrySettings
  /-- What the keys of client secrets begin with. -/
  secretKeyPrefix : String
  deriving DecidableEq, Repr

namespace Settings

/-- The defaults of every section. -/
def default : Settings where
  provider := .default
  realm := .default
  clients := .default
  registry := .default
  secretKeyPrefix := "tenant-realm"

/-- The wire form of the settings. -/
def record : Record Settings where
  name := "TenantRealmConfig"
  fields :=
    [.defaulted "keycloak" ProviderSettings.record.codec (·.provider)
       fun v s => { s with provider := v },
     .defaulted "realm" Lifetimes.record.codec (·.realm) fun v s => { s with realm := v },
     .defaulted "clients" ClientSettings.record.codec (·.clients) fun v s => { s with clients := v },
     .defaulted "registry" RegistrySettings.record.codec (·.registry)
       fun v s => { s with registry := v },
     .defaulted "secret_key_prefix" .string (·.secretKeyPrefix)
       fun v s => { s with secretKeyPrefix := v }]
  blank := default
  strict := true

/-- Settings in JSON. -/
def codec : Codec Settings := record.codec

end Settings

end Tenancy
