import Tenancy.Fault
import Tenancy.Registry.Remote
import Tenancy.Tenant

/-!
# Listeners

The tenant service tells listeners what happened to a tenant. They are told in the order in which
they were registered, and the first one that fails keeps the others from being told; its failure is
passed on as it is.
-/

namespace Tenancy

/-- Someone who is told what happens to tenants. -/
structure Listener (m : Type → Type) where
  name : String
  onCreate : RequestContext → Tenant → m (Except PublicError Unit)
  onUpdate : RequestContext → Tenant → m (Except PublicError Unit)
  onDelete : RequestContext → String → m (Except PublicError Unit)

/-- Something that happened to a tenant. -/
inductive Event where
  | created (tenant : Tenant)
  | updated (tenant : Tenant)
  | deleted (name : String)
  deriving DecidableEq, Repr

namespace Listener

variable {m n : Type → Type}

/-- Someone who takes no interest. -/
def silent [Monad m] (name : String) : Listener m where
  name := name
  onCreate _ _ := return .ok ()
  onUpdate _ _ := return .ok ()
  onDelete _ _ := return .ok ()

/-- Tells a listener what happened. -/
def hear (l : Listener m) (ctx : RequestContext) : Event → m (Except PublicError Unit)
  | .created t => l.onCreate ctx t
  | .updated t => l.onUpdate ctx t
  | .deleted name => l.onDelete ctx name

/-- The listener in another monad. -/
def hoist (f : {α : Type} → m α → n α) (l : Listener m) : Listener n where
  name := l.name
  onCreate ctx t := f (l.onCreate ctx t)
  onUpdate ctx t := f (l.onUpdate ctx t)
  onDelete ctx name := f (l.onDelete ctx name)

/-- Tells listeners one after the other, up to the first one that fails. -/
def tellAll [Monad m] (ctx : RequestContext) (e : Event) : List (Listener m) →
    m (Except PublicError Unit)
  | [] => return .ok ()
  | l :: rest => do
    match ← l.hear ctx e with
    | .ok () => tellAll ctx e rest
    | .error f => return .error f

end Listener

namespace Registry.Remote

/-- Publishes what a registry operation ends with. -/
def published (x : Program Outside (Except Fault Unit)) : Program Outside (Except PublicError Unit) :=
  (·.mapError Fault.publish) <$> x

/-- Registers a tenant unless it is registered. -/
def ensure (r : Remote) (ctx : RequestContext) (t : Tenant) : Program Outside (Except Fault Unit) := do
  match ← r.contains ctx t.name with
  | .error f => return .error f
  | .ok true => return .ok ()
  | .ok false => r.insert ctx (.ofTenant t)

/-- Registers a tenant, or brings its entry up to date. -/
def upsert (r : Remote) (ctx : RequestContext) (t : Tenant) : Program Outside (Except Fault Unit) := do
  match ← r.contains ctx t.name with
  | .error f => return .error f
  | .ok true => r.replace ctx (.ofTenant t)
  | .ok false => r.insert ctx (.ofTenant t)

/-- Keeps the registry in step with the tenants. -/
def listener (r : Remote) : Listener (Program Outside) where
  name := "registry"
  onCreate ctx t := published (r.ensure ctx t)
  onUpdate ctx t := published (r.upsert ctx t)
  onDelete ctx name := published (r.erase ctx name)

end Registry.Remote

/-- Removes the message topics of deleted tenants. -/
def topicListener : Listener (Program Outside) where
  name := "topic-cleanup"
  onCreate _ _ := return .ok ()
  onUpdate _ _ := return .ok ()
  onDelete _ name := do
    match ← Outside.ask (.cleanTopics name) with
    | .ok () => return .ok ()
    | .error c => return .error (.internal ("topic cleanup failed: " ++ c.line))

end Tenancy
