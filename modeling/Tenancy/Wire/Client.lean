import Tenancy.Json.Record

/-!
# Clients on the wire

A client, its protocol mappers, and its authorization settings: the scopes it declares and the
policies and permissions over them. Also the small answers that the admin interface gives about a
client's user, about the permissions on users, and about the server itself.
-/

namespace Tenancy.Wire

open Json (Codec Field Record)

/-- How several policies are combined. -/
inductive DecisionStrategy where
  | unanimous
  | affirmative
  | consensus
  deriving DecidableEq, Repr

/-- Strategies in JSON. -/
def DecisionStrategy.codec : Codec DecisionStrategy :=
  .choice [("UNANIMOUS", .unanimous), ("AFFIRMATIVE", .affirmative), ("CONSENSUS", .consensus)]

/-- Whether a policy grants when its condition holds or when it fails. -/
inductive Logic where
  | positive
  | negative
  deriving DecidableEq, Repr

/-- Logics in JSON. -/
def Logic.codec : Codec Logic := .choice [("POSITIVE", .positive), ("NEGATIVE", .negative)]

/-- What happens to a request that no policy covers. -/
inductive EnforcementMode where
  | enforcing
  | permissive
  | disabled
  deriving DecidableEq, Repr

/-- Modes in JSON. -/
def EnforcementMode.codec : Codec EnforcementMode :=
  .choice [("ENFORCING", .enforcing), ("PERMISSIVE", .permissive), ("DISABLED", .disabled)]

/-- A scope that permissions may name. -/
structure Scope where
  id : Option String
  name : String
  deriving DecidableEq, Repr

/-- The wire form of a scope. -/
def Scope.record : Record Scope where
  name := "ScopeRepresentation"
  fields :=
    [.present "id" .string (·.id) fun v s => { s with id := v },
     .required "name" .string (·.name) fun v s => { s with name := v }]
  blank := ⟨none, ""⟩
  strict := false

/-- Scopes in JSON. -/
def Scope.codec : Codec Scope := record.codec

/-- A policy or a permission. What a role policy or a scope permission is bound to stands in
`config`, as JSON texts; a client policy and an update of a permission list ids. -/
structure Policy where
  id : Option String
  name : String
  description : Option String
  kind : String
  logic : Logic
  decisionStrategy : DecisionStrategy
  config : Dict String
  clients : Option (List String)
  policies : Option (List String)
  deriving DecidableEq, Repr

/-- The wire form of a policy. -/
def Policy.record : Record Policy where
  name := "PolicyRepresentation"
  fields :=
    [.present "id" .string (·.id) fun v s => { s with id := v },
     .required "name" .string (·.name) fun v s => { s with name := v },
     .present "description" .string (·.description) fun v s => { s with description := v },
     .required "type" .string (·.kind) fun v s => { s with kind := v },
     .defaulted "logic" Logic.codec (·.logic) fun v s => { s with logic := v },
     .defaulted "decisionStrategy" DecisionStrategy.codec (·.decisionStrategy)
       fun v s => { s with decisionStrategy := v },
     .omitted "config" (.dict .string) (·.config) (fun v s => { s with config := v }) Dict.isEmpty,
     .present "clients" (.list .string) (·.clients) fun v s => { s with clients := v },
     .present "policies" (.list .string) (·.policies) fun v s => { s with policies := v }]
  blank := ⟨none, "", none, "", .positive, .unanimous, ∅, none, none⟩
  strict := false

/-- Policies in JSON. -/
def Policy.codec : Codec Policy := record.codec

/-- A client's authorization settings. -/
structure Authorization where
  allowRemoteResourceManagement : Bool
  policyEnforcementMode : EnforcementMode
  decisionStrategy : DecisionStrategy
  scopes : List Scope
  policies : List Policy
  deriving DecidableEq, Repr

/-- The wire form of authorization settings. -/
def Authorization.record : Record Authorization where
  name := "ResourceServerRepresentation"
  fields :=
    [.required "allowRemoteResourceManagement" .bool (·.allowRemoteResourceManagement)
       fun v s => { s with allowRemoteResourceManagement := v },
     .required "policyEnforcementMode" EnforcementMode.codec (·.policyEnforcementMode)
       fun v s => { s with policyEnforcementMode := v },
     .required "decisionStrategy" DecisionStrategy.codec (·.decisionStrategy)
       fun v s => { s with decisionStrategy := v },
     .defaulted "scopes" (.list Scope.codec) (·.scopes) fun v s => { s with scopes := v },
     .defaulted "policies" (.list Policy.codec) (·.policies) fun v s => { s with policies := v }]
  blank := ⟨false, .enforcing, .unanimous, [], []⟩
  strict := false

/-- Authorization settings in JSON. -/
def Authorization.codec : Codec Authorization := record.codec

/-- A rule that puts something into a client's tokens. -/
structure Mapper where
  id : Option String
  name : String
  protocol : String
  protocolMapper : String
  consentRequired : Bool
  config : Dict String
  deriving DecidableEq, Repr

/-- The wire form of a mapper. -/
def Mapper.record : Record Mapper where
  name := "ProtocolMapperRepresentation"
  fields :=
    [.present "id" .string (·.id) fun v s => { s with id := v },
     .required "name" .string (·.name) fun v s => { s with name := v },
     .required "protocol" .string (·.protocol) fun v s => { s with protocol := v },
     .required "protocolMapper" .string (·.protocolMapper) fun v s => { s with protocolMapper := v },
     .defaulted "consentRequired" .bool (·.consentRequired)
       fun v s => { s with consentRequired := v },
     .defaulted "config" (.dict .string) (·.config) fun v s => { s with config := v }]
  blank := ⟨none, "", "", "", false, ∅⟩
  strict := false

/-- Mappers in JSON. -/
def Mapper.codec : Codec Mapper := record.codec

/-- A client of a realm. -/
structure Client where
  id : Option String
  clientId : String
  name : Option String
  description : Option String
  secret : Option String
  enabled : Bool
  frontchannelLogout : Bool
  publicClient : Bool
  directAccessGrantsEnabled : Bool
  serviceAccountsEnabled : Bool
  authorizationServicesEnabled : Bool
  protocol : Option String
  redirectUris : List String
  webOrigins : List String
  attributes : Dict String
  protocolMappers : List Mapper
  authorizationSettings : Option Authorization
  deriving DecidableEq, Repr

/-- The wire form of a client. -/
def Client.record : Record Client where
  name := "ClientRepresentation"
  fields :=
    [.present "id" .string (·.id) fun v s => { s with id := v },
     .required "clientId" .string (·.clientId) fun v s => { s with clientId := v },
     .present "name" .string (·.name) fun v s => { s with name := v },
     .present "description" .string (·.description) fun v s => { s with description := v },
     .present "secret" .string (·.secret) fun v s => { s with secret := v },
     .defaulted "enabled" .bool (·.enabled) fun v s => { s with enabled := v },
     .defaulted "frontchannelLogout" .bool (·.frontchannelLogout)
       fun v s => { s with frontchannelLogout := v },
     .defaulted "publicClient" .bool (·.publicClient) fun v s => { s with publicClient := v },
     .defaulted "directAccessGrantsEnabled" .bool (·.directAccessGrantsEnabled)
       fun v s => { s with directAccessGrantsEnabled := v },
     .defaulted "serviceAccountsEnabled" .bool (·.serviceAccountsEnabled)
       fun v s => { s with serviceAccountsEnabled := v },
     .defaulted "authorizationServicesEnabled" .bool (·.authorizationServicesEnabled)
       fun v s => { s with authorizationServicesEnabled := v },
     .present "protocol" .string (·.protocol) fun v s => { s with protocol := v },
     .defaulted "redirectUris" (.list .string) (·.redirectUris)
       fun v s => { s with redirectUris := v },
     .defaulted "webOrigins" (.list .string) (·.webOrigins) fun v s => { s with webOrigins := v },
     .defaulted "attributes" (.dict .string) (·.attributes) fun v s => { s with attributes := v },
     .omitted "protocolMappers" (.list Mapper.codec) (·.protocolMappers)
       (fun v s => { s with protocolMappers := v }) List.isEmpty,
     .present "authorizationSettings" Authorization.codec (·.authorizationSettings)
       fun v s => { s with authorizationSettings := v }]
  blank := ⟨none, "", none, none, none, false, false, false, false, false, false, none, [], [], ∅,
    [], none⟩
  strict := false

/-- Clients in JSON. -/
def Client.codec : Codec Client := record.codec

/-- A user. -/
structure User where
  id : String
  username : Option String
  deriving DecidableEq, Repr

/-- The wire form of a user. -/
def User.record : Record User where
  name := "UserRepresentation"
  fields :=
    [.required "id" .string (·.id) fun v s => { s with id := v },
     .defaulted "username" Codec.string.option (·.username) fun v s => { s with username := v }]
  blank := ⟨"", none⟩
  strict := false

/-- Users in JSON. -/
def User.codec : Codec User := record.codec

/-- Where the permissions on a realm's users are kept. -/
structure PermissionReference where
  enabled : Bool
  resource : Option String
  scopePermissions : Dict String
  deriving DecidableEq, Repr

/-- The wire form of a permission reference. -/
def PermissionReference.record : Record PermissionReference where
  name := "ManagementPermissionReference"
  fields :=
    [.required "enabled" .bool (·.enabled) fun v s => { s with enabled := v },
     .defaulted "resource" Codec.string.option (·.resource) fun v s => { s with resource := v },
     .defaulted "scopePermissions" (.dict .string) (·.scopePermissions)
       fun v s => { s with scopePermissions := v }]
  blank := ⟨false, none, ∅⟩
  strict := false

/-- Permission references in JSON. -/
def PermissionReference.codec : Codec PermissionReference := record.codec

/-- What a server says of itself: the mappers it has built in, by protocol. -/
structure ServerInfo where
  builtinMappers : Dict (List Mapper)
  deriving DecidableEq, Repr

/-- The wire form of server information. -/
def ServerInfo.record : Record ServerInfo where
  name := "ServerInfoRepresentation"
  fields :=
    [.defaulted "builtinProtocolMappers" (.dict (.list Mapper.codec)) (·.builtinMappers)
       fun v s => { s with builtinMappers := v }]
  blank := ⟨∅⟩
  strict := false

/-- Server information in JSON. -/
def ServerInfo.codec : Codec ServerInfo := record.codec

end Tenancy.Wire
