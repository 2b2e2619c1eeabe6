import Tenancy.Realm.ClientPlan
import Tenancy.Secret

/-!
# Filling a new realm

A new realm is given two roles and four clients, in a fixed order. The module client's service
account gets the system role; the impersonation client gets the provider's own permission to act as
any user; the password-reset client gets a mapper that the provider has built in.
-/

namespace Tenancy.Realm

/-- The settings that provisioning goes by. -/
structure Plan where
  clients : ClientSettings
  /-- What the keys of client secrets begin with. -/
  keyStart : String
  deriving DecidableEq, Repr

/-- The roles of a new realm. -/
structure Roles where
  system : Wire.Role
  passwordReset : Wire.Role
  deriving DecidableEq, Repr

/-- The client that holds the permissions on a realm's users. -/
def managementClient : String := "realm-management"

/-- The scope of the permission to act as a user. -/
def impersonateScope : String := "impersonate"

namespace Plan

/-- Creates a role. -/
def addRole (realm name description : String) : Work Wire.Role := do
  let role : Wire.Role := ⟨none, name, some description⟩
  let id ← Work.create role (Facility.call (.createRole realm role))
  return { role with id := some id }

/-- Creates the system role and the password-reset role. -/
def addRoles (p : Plan) (realm : String) : Work Roles := do
  let system ← addRole realm p.clients.systemRole "Role of module service accounts"
  let passwordReset ← addRole realm p.clients.passwordResetRole "Allows resetting user passwords"
  return ⟨system, passwordReset⟩

/-- Gives a role to the user behind a client. -/
def grantRole (realm client clientId role : String) : Work Unit :=
  Work.calls ("Failed to assign role '" ++ role ++ "' to client '" ++ clientId ++ "'") fun token => do
    let user ← Work.Attempt.call (.serviceAccount realm client) token
    match ← Work.Attempt.call (.findRole realm role) token with
    | none => throw (.settled (.absent ("role '" ++ role ++ "'")))
    | some found => Work.Attempt.call (.addRoles realm user.id [found]) token

/-- Creates the client of a plan and gives its service account the role it is to have. -/
def addClient (p : Plan) (realm : String) (plan : ClientPlan) : Work Wire.Client := do
  let secret ← Secret.obtain p.keyStart realm plan.clientId
  let client := plan.client secret
  let id ← Work.create client (Facility.call (.createClient realm client))
  match plan.serviceAccountRole with
  | some role => grantRole realm id client.clientId role
  | none => pure ()
  return { client with id := some id }

/-- Creates the client by which modules call each other. -/
def addModuleClient (p : Plan) (realm : String) : Work Wire.Client := do
  p.addClient realm (.forModules p.clients (← Work.ask .now))

/-- Creates the client by which users log in. -/
def addLoginClient (p : Plan) (realm : String) : Work Wire.Client := do
  p.addClient realm (.forLogin p.clients realm (← Work.ask .now))

/-- The one client that holds the permissions on users. -/
def findManagement (realm : String) : Work Wire.Client := do
  let found ← Work.call
    ("Failed to look up client '" ++ managementClient ++ "' in realm: " ++ realm)
    (.findClients realm managementClient)
  let what := "client '" ++ managementClient ++ "'"
  match (found : List Wire.Client) with
  | [] => throw (.absent what)
  | [c] => return c
  | cs => throw (.ambiguous what cs.length)

/-- The policy that lets a client act as any user. -/
def impersonationPolicy (clientId client : String) : Wire.Policy :=
  { ClientPlan.plainPolicy (clientId ++ " policy") "client" [] with
    description := some ("Allows '" ++ clientId ++ "' to impersonate users")
    clients := some [client] }

/-- The ids of policies with one more at the end, unless it is among them. -/
def withPolicy (policies : List Wire.Policy) (id : String) : List String :=
  let ids := policies.filterMap (·.id)
  if ids.contains id then ids else ids ++ [id]

/-- Adds a policy to a permission, keeping those it has. -/
def bindPolicy (realm server permission policy : String) : Work Unit :=
  Work.calls ("Failed to update '" ++ impersonateScope ++ "' permission for realm: " ++ realm)
    fun token => do
      let found ← Work.Attempt.call (.findPermission realm server permission) token
      let policies ← Work.Attempt.call (.findPolicies realm server permission) token
      let updated : Wire.Policy := { found with policies := some (withPolicy policies policy) }
      Work.Attempt.call (.updatePermission realm server updated) token

/-- Lets a client act as any user of the realm. -/
def grantImpersonation (realm : String) (client : Wire.Client) : Work Unit := do
  let noId (clientId : String) : Fault := .provider ("Client '" ++ clientId ++ "' has no id") none
  let some clientUuid := client.id | throw (noId client.clientId)
  let management ← findManagement realm
  let some server := management.id | throw (noId managementClient)
  let permissions ← Work.call
    ("Failed to enable users management permissions for realm: " ++ realm)
    (.enablePermissions realm)
  let some permission := (permissions : Wire.PermissionReference).scopePermissions.get? impersonateScope
    | throw (.absent ("'" ++ impersonateScope ++ "' permission"))
  let policy := impersonationPolicy client.clientId clientUuid
  let policyId ← Work.create policy (Facility.call (.createPolicy realm server policy))
  bindPolicy realm server permission policyId

/-- Creates the client that may act as any user. -/
def addImpersonationClient (p : Plan) (realm : String) : Work Wire.Client := do
  let client ← p.addClient realm (.forImpersonation p.clients (← Work.ask .now))
  grantImpersonation realm client
  return client

/-- A mapper that the provider has built in, without the id it has there. -/
def findMapper (name : String) : Work Wire.Mapper := do
  let info ← Work.call "Failed to read server info" .serverInfo
  let mappers := ((info : Wire.ServerInfo).builtinMappers.get? openidConnect).getD []
  match mappers.find? fun m => m.name == name with
  | some m => return { m with id := none }
  | none => throw (.absent ("protocol mapper '" ++ name ++ "'"))

/-- Creates the client whose tokens let users reset their passwords. -/
def addPasswordResetClient (p : Plan) (realm : String) : Work Wire.Client := do
  let mapper ← findMapper p.clients.passwordResetMapper
  p.addClient realm (.forPasswordReset p.clients mapper (← Work.ask .now))

/-- Gives a new realm its roles and clients. -/
def fill (p : Plan) (realm : String) : Work Unit := do
  let _ ← p.addRoles realm
  let _ ← p.addModuleClient realm
  let _ ← p.addLoginClient realm
  let _ ← p.addImpersonationClient realm
  let _ ← p.addPasswordResetClient realm

end Plan

end Tenancy.Realm
