import Tenancy.Attribute.Replacement
import Tenancy.Listener
import Tenancy.Realm.Lifecycle

/-!
# The tenant service

Everything is put together from the settings: the realm design, the provider, and the listeners. The
realm of a tenant comes first; the registry, if there is one, follows it, and the topics of a tenant
are removed last.
-/

namespace Tenancy

/-- A computation of the service: it keeps the admin token and asks the world outside. -/
abbrev Action := StateT TokenSlot (Program Outside)

/-- The service as the settings describe it. -/
structure Service where
  design : Realm.Design
  provider : Provider.Endpoint
  registry : Option Registry.Remote
  cleansTopics : Bool

/-- What the service finds in place: perhaps a registry of the host's own, and whether topics can be
removed. -/
structure Surroundings where
  registry : Option Registry.Remote
  cleansTopics : Bool

namespace Service

/-- The registry that the service tells: the host's own, or the one that the settings enable. -/
def chooseRegistry (s : RegistrySettings) (h : Surroundings) : Except Fault (Option Registry.Remote) :=
  match h.registry with
  | some r => .ok (some r)
  | none => if s.enabled then (Registry.Remote.ofSettings s).map some else .ok none

/-- The provider that the settings name. -/
def endpoint (s : ProviderSettings) : Except Fault Provider.Endpoint := do
  let base ← baseUrl "keycloak.base_url" s.baseUrl
  return ⟨base, ← Provider.Login.ofSettings base s⟩

/-- The service that the settings describe, if they can be used. -/
def ofSettings (s : Settings) (h : Surroundings) : Except Fault Service := do
  s.check
  let provider ← endpoint s.provider
  let registry ← chooseRegistry s.registry h
  return ⟨.ofSettings s .standard, provider, registry, h.cleansTopics⟩

/-- Work on realms as an action of the service. -/
def act {α : Type} (p : Provider.Endpoint) (w : Work α) : Action (Except Fault α) := (w.through p).run

/-- Keeps the realms in step with the tenants. -/
def realmListener (d : Realm.Design) (p : Provider.Endpoint) : Listener Action where
  name := "realm"
  onCreate _ t := (·.mapError Fault.publish) <$> act p (discard (d.establish t))
  onUpdate _ t := (·.mapError Fault.publish) <$> act p (d.revise t)
  onDelete _ name := (·.mapError Fault.publish) <$> act p (Realm.retire name)

/-- The listeners in the order in which they are told. -/
def listeners (s : Service) : List (Listener Action) :=
  [realmListener s.design s.provider]
    ++ (s.registry.map fun r => r.listener.hoist fun x => liftM x).toList
    ++ (if s.cleansTopics then [topicListener.hoist fun x => liftM x] else [])

/-- Tells the listeners what happened to a tenant. -/
def tell (s : Service) (ctx : RequestContext) (e : Event) : Action (Except PublicError Unit) :=
  Listener.tellAll ctx e s.listeners

/-- The realm of a tenant, created and filled if there is none. -/
def establish (s : Service) (t : Tenant) : Action (Except Fault Wire.Realm) :=
  act s.provider (s.design.establish t)

/-- Brings a realm up to date with its tenant. -/
def revise (s : Service) (t : Tenant) : Action (Except Fault Unit) :=
  act s.provider (s.design.revise t)

/-- Removes a realm if there is one. -/
def retire (s : Service) (name : String) : Action (Except Fault Unit) :=
  act s.provider (Realm.retire name)

/-- The realm of a name, if there is one. -/
def lookup (s : Service) (name : String) : Action (Except Fault (Option Wire.Realm)) :=
  act s.provider (Realm.lookup name)

/-- The admin token. -/
def token (s : Service) : Action (Except ProviderError Token) :=
  (Session.current s.provider.login.issue).run

/-- A new admin token. -/
def renewToken (s : Service) : Action (Except ProviderError Token) :=
  (Session.renew s.provider.login.issue).run

end Service

end Tenancy
