import Tenancy.Fault
import Tenancy.Wire.Client
import Tenancy.Wire.Realm

/-!
# Calls to the identity provider

Everything that is ever asked of the provider's admin interface, with the type of each answer. A
creation is answered by a receipt that leaves the judgement to the caller; a lookup of something
that does not exist is answered by `none`.
-/

namespace Tenancy

/-- What comes back from a creation. -/
structure Receipt where
  status : Status
  location : Option String
  body : Option Json

namespace Receipt

/-- A plain success that says where the new thing is. -/
def created (location : String) : Receipt := ⟨.created, some location, none⟩

/-- A bare status. -/
def ofStatus (status : Status) : Receipt := ⟨status, none, none⟩

end Receipt

namespace Provider

/-- A call of the admin interface. Realms are given by name, everything else by the id that the
provider assigned, except that clients are looked up by their client id and roles by name. -/
inductive Call where
  | findRealm (realm : String)
  | createRealm (realm : Wire.Realm)
  | updateRealm (realm : Wire.Realm)
  | deleteRealm (realm : String)
  | createRole (realm : String) (role : Wire.Role)
  | findRole (realm name : String)
  | createClient (realm : String) (client : Wire.Client)
  | findClients (realm clientId : String)
  | serviceAccount (realm client : String)
  | addRoles (realm user : String) (roles : List Wire.Role)
  | enablePermissions (realm : String)
  | createPolicy (realm server : String) (policy : Wire.Policy)
  | findPermission (realm server permission : String)
  | findPolicies (realm server permission : String)
  | updatePermission (realm server : String) (permission : Wire.Policy)
  | serverInfo

/-- What a successful call is answered by. -/
def Call.Answer : Call → Type
  | .findRealm _ => Option Wire.Realm
  | .createRealm _ => Receipt
  | .updateRealm _ => Unit
  -- Whether there was something to delete.
  | .deleteRealm _ => Bool
  | .createRole _ _ => Receipt
  | .findRole _ _ => Option Wire.Role
  | .createClient _ _ => Receipt
  | .findClients _ _ => List Wire.Client
  | .serviceAccount _ _ => Wire.User
  | .addRoles _ _ _ => Unit
  | .enablePermissions _ => Wire.PermissionReference
  | .createPolicy _ _ _ => Receipt
  | .findPermission _ _ _ => Wire.Policy
  | .findPolicies _ _ _ => List Wire.Policy
  | .updatePermission _ _ _ => Unit
  | .serverInfo => Wire.ServerInfo

end Provider

end Tenancy
