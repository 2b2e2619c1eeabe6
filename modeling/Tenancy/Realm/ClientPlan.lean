import Tenancy.Settings
import Tenancy.Wire.Client

/-!
# The clients of a realm

Four clients differ in a few points and are alike in all others. A plan says what is special about
one of them: its id, what its service account may do, which mappers put what into its tokens, and
who may use it.
-/

namespace Tenancy.Realm

/-- The protocol that all clients speak. -/
def openidConnect : String := "openid-connect"

/-- What is special about a client. -/
structure ClientPlan where
  clientId : String
  description : String
  serviceAccountsEnabled : Bool
  authorizationServicesEnabled : Bool
  attributes : Dict String
  protocolMappers : List Wire.Mapper
  authorizationSettings : Option Wire.Authorization
  /-- The realm role that the client's service account is given. -/
  serviceAccountRole : Option String
  deriving DecidableEq, Repr

namespace ClientPlan

/-- The attributes that rule a client's tokens, and when its secret was made. -/
def tokenAttributes (lifespan : UInt32) (refresh : Bool) (now : Nat) : Dict String :=
  .ofList
    [("access.token.lifespan", toString lifespan.toNat),
     ("use.refresh.tokens", if refresh then "true" else "false"),
     ("client.secret.creation.time", toString now)]

/-- A mapper that puts a property of the user into a claim of every token. -/
def propertyMapper (name property claim : String) : Wire.Mapper where
  id := none
  name := name
  protocol := openidConnect
  protocolMapper := "oidc-usermodel-property-mapper"
  consentRequired := false
  config := .ofList
    [("user.attribute", property), ("claim.name", claim), ("jsonType.label", "String"),
     ("id.token.claim", "true"), ("access.token.claim", "true"), ("userinfo.token.claim", "true")]

/-- The user's name and id. -/
def userMappers : List Wire.Mapper :=
  [propertyMapper "username" "username" "sub", propertyMapper "user_id" "id" "user_id"]

/-- A scope for every HTTP verb. -/
def verbs : List String := ["GET", "POST", "PUT", "DELETE", "PATCH", "OPTIONS"]

/-- The policy that grants to the system role. -/
def systemPolicy : String := "System role policy"

/-- The policy that grants to the password-reset role. -/
def passwordResetPolicy : String := "Password Reset policy"

/-- The permission that the system role has. -/
def systemPermission : String := "System role permission"

/-- Texts as the JSON text of a list. -/
def listText (names : List String) : String := (Json.arr (names.map .str)).compact

/-- The JSON text by which a policy names a role. -/
def rolesText (role : String) : String :=
  (Json.arr [.obj [("id", .str role), ("required", .bool false)]]).compact

/-- A policy or permission that has nothing but a name, a kind and settings. -/
def plainPolicy (name kind : String) (config : List (String × String)) : Wire.Policy where
  id := none
  name := name
  description := none
  kind := kind
  logic := .positive
  decisionStrategy := .unanimous
  config := .ofList config
  clients := none
  policies := none

/-- A policy that grants to a role. -/
def rolePolicy (name role : String) : Wire.Policy :=
  plainPolicy name "role" [("roles", rolesText role)]

/-- The permission of the system role: every verb. -/
def verbPermission : Wire.Policy :=
  { plainPolicy systemPermission "scope"
      [("scopes", listText verbs), ("applyPolicies", listText [systemPolicy])] with
    description := some "Grants every verb to the system role" }

/-- Who may do what with the login client. Policies stand before the permission that names them. -/
def loginAuthorization (s : ClientSettings) : Wire.Authorization where
  allowRemoteResourceManagement := true
  policyEnforcementMode := .enforcing
  decisionStrategy := .unanimous
  scopes := verbs.map fun v => ⟨none, v⟩
  policies :=
    [rolePolicy systemPolicy s.systemRole, rolePolicy passwordResetPolicy s.passwordResetRole,
     verbPermission]

/-- The client by which modules call each other. -/
def forModules (s : ClientSettings) (now : Nat) : ClientPlan where
  clientId := s.moduleClientId
  description := "Service client used by modules to call each other"
  serviceAccountsEnabled := true
  authorizationServicesEnabled := true
  attributes := tokenAttributes s.accessTokenLifespan s.useRefreshTokens now
  protocolMappers := []
  authorizationSettings := none
  serviceAccountRole := some s.systemRole

/-- The client by which users of a realm log in. -/
def forLogin (s : ClientSettings) (realm : String) (now : Nat) : ClientPlan where
  clientId := s.loginClientIdFor realm
  description := "Client used for user login"
  serviceAccountsEnabled := true
  authorizationServicesEnabled := true
  attributes := tokenAttributes s.accessTokenLifespan s.useRefreshTokens now
  protocolMappers := userMappers
  authorizationSettings := some (loginAuthorization s)
  serviceAccountRole := none

/-- The client that may act as any user. -/
def forImpersonation (s : ClientSettings) (now : Nat) : ClientPlan where
  clientId := s.impersonationClientId
  description := "Client allowed to impersonate realm users"
  serviceAccountsEnabled := true
  authorizationServicesEnabled := true
  attributes := tokenAttributes s.accessTokenLifespan s.useRefreshTokens now
  protocolMappers := userMappers
  authorizationSettings := none
  serviceAccountRole := none

/-- The client whose tokens let users reset their passwords. -/
def forPasswordReset (s : ClientSettings) (mapper : Wire.Mapper) (now : Nat) : ClientPlan where
  clientId := s.passwordResetClientId
  description := "Client issuing password reset tokens"
  serviceAccountsEnabled := true
  authorizationServicesEnabled := false
  attributes := tokenAttributes s.passwordResetTokenLifespan s.passwordResetUseRefreshTokens now
  protocolMappers := [mapper]
  authorizationSettings := none
  serviceAccountRole := none

/-- The client of a plan, with its secret. -/
def client (p : ClientPlan) (secret : String) : Wire.Client where
  id := none
  clientId := p.clientId
  name := some p.clientId
  description := some p.description
  secret := some secret
  enabled := true
  frontchannelLogout := true
  publicClient := false
  directAccessGrantsEnabled := true
  serviceAccountsEnabled := p.serviceAccountsEnabled
  authorizationServicesEnabled := p.authorizationServicesEnabled
  protocol := some openidConnect
  redirectUris := ["/*"]
  webOrigins := ["/*"]
  attributes := p.attributes
  protocolMappers := p.protocolMappers
  authorizationSettings := p.authorizationSettings

end ClientPlan

end Tenancy.Realm
