import Tenancy.Realm.Blueprint
import Tenancy.Realm.Provisioning
import Tenancy.RealmName

/-!
# The life of a realm

A tenant's realm is established, revised and retired with the tenant. Establishing one that exists
changes nothing. A new realm that cannot be filled is taken away again, and the failure reported is
the one that stopped the filling, whatever becomes of the removal.
-/

namespace Tenancy.Realm

/-- All that the life of a realm depends on. -/
structure Design where
  plan : Plan
  lifetimes : Lifetimes
  blueprint : Blueprint
  deriving DecidableEq, Repr

/-- The design that the settings describe. -/
def Design.ofSettings (s : Settings) (b : Blueprint) : Design where
  plan := ⟨s.clients, s.secretKeyPrefix⟩
  lifetimes := s.realm
  blueprint := b

/-- The id of a tenant that may have a realm. -/
def eligible (t : Tenant) : Except Fault Uuid :=
  match t.id with
  | none => .error (.invalid "id" "tenant identifier is required")
  | some id =>
    if RealmName.isValid t.name then .ok id
    else .error (.invalid "name" ("'" ++ t.name ++ "' is not a valid realm name"))

/-- The realm of a name, if there is one. -/
def lookup (name : String) : Work (Option Wire.Realm) :=
  Work.call ("Failed to look up realm: " ++ name) (.findRealm name)

/-- Removes a realm; the answer says whether it was there. -/
def remove (name : String) : Work Bool :=
  Work.call ("Failed to delete realm: " ++ name) (.deleteRealm name)

/-- Carries out a piece of work; if it fails, the realm is removed and the failure stays. -/
def orRemove (name : String) (work : Work Unit) : Work Unit :=
  Session.ofFn fun slot => do
    match ← work.play slot with
    | (.ok v, slot) => return (.ok v, slot)
    | (.error f, slot) =>
      let (_, slot) ← (remove name).play slot
      return (.error f, slot)

namespace Design

/-- The realm of a tenant, created and filled if there is none. -/
def establish (d : Design) (t : Tenant) : Work Wire.Realm := do
  let id ← Session.lift (pure (eligible t))
  match ← lookup t.name with
  | some found => return found
  | none =>
    let realm := d.blueprint.realm d.lifetimes id t
    let _ ← Work.create realm (Facility.call (.createRealm realm))
    orRemove t.name (d.plan.fill t.name)
    return realm

/-- Brings a realm up to date with its tenant; its roles and clients stay as they are. -/
def revise (d : Design) (t : Tenant) : Work Unit := do
  let id ← Session.lift (pure (eligible t))
  Work.call ("Failed to update realm for tenant: " ++ t.name)
    (.updateRealm (describe d.lifetimes id t))

end Design

/-- Removes a realm if there is one. -/
def retire (name : String) : Work Unit := do
  match ← lookup name with
  | none => return ()
  | some _ =>
    let _ ← remove name

end Tenancy.Realm
