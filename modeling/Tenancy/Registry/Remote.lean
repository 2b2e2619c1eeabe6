import Tenancy.Outside
import Tenancy.Registry.Descriptor
import Tenancy.Settings.Check

/-!
# The registry over HTTP

The registry keeps its tenants below one path. It is told on whose behalf it is asked: every request
carries the id of the request it serves and, if there is one, the caller's own token. A lookup may
find nothing, and something that is not there need not be deleted; every other answer but a success
is a failure.
-/

namespace Tenancy.Registry

/-- A registry on the network. -/
structure Remote where
  base : Url
  deriving DecidableEq, Repr

namespace Remote

/-- The registry that the settings name. -/
def ofSettings (s : RegistrySettings) : Except Fault Remote :=
  (baseUrl "registry.base_url" s.baseUrl).map Remote.mk

/-- The path of all tenants, or of one of them. -/
def path (tenant : Option String) : List String := ["_", "proxy", "tenants"] ++ tenant.toList

/-- The failure of an action. -/
def failure (action reason : String) : Fault := .registry ("Failed to " ++ action ++ ": " ++ reason)

/-- The request for something in the registry. -/
def request (r : Remote) (ctx : RequestContext) (method : Http.Method) (tenant : Option String)
    (body : Option Descriptor) : Except Fault Http.Request :=
  match r.base.join? (path tenant) with
  | none => .error (.registry ("cannot build URL from " ++ r.base.text))
  | some u =>
    let plain := (Http.Request.bare method u).withHeader "x-okapi-request-id" ctx.requestId.text
    let marked := match ctx.callerToken with
      | some token => plain.withHeader "x-okapi-token" token
      | none => plain
    .ok (match body with
      | some d => marked.withBody "application/json" (Descriptor.codec.encode d).compact
      | none => marked)

/-- Sends a request for an action and judges its status. -/
def perform {α : Type} (action : String) (request : Except Fault Http.Request)
    (judge : Status → Option α) : Program Outside (Except Fault α) :=
  match request with
  | .error f => return .error f
  | .ok r => do
    match ← Outside.send r with
    | .error cause => return .error (failure action cause.message)
    | .ok reply =>
      match judge reply.status with
      | some v => return .ok v
      | none => return .error (failure action reply.status.text)

/-- A success and nothing else. -/
def onSuccess (s : Status) : Option Unit := if s.isSuccess then some () else none

/-- A success, or that there was nothing to do. -/
def onSuccessOrAbsence (s : Status) : Option Unit :=
  if s = .notFound then some () else onSuccess s

/-- Whether a status says that something is there. -/
def onPresence (s : Status) : Option Bool :=
  if s = .notFound then some false else (onSuccess s).map fun _ => true

/-- Whether a tenant is registered. -/
def contains (r : Remote) (ctx : RequestContext) (name : String) :
    Program Outside (Except Fault Bool) :=
  perform ("look up tenant '" ++ name ++ "'") (r.request ctx .get (some name) none) onPresence

/-- Registers a tenant. -/
def insert (r : Remote) (ctx : RequestContext) (d : Descriptor) : Program Outside (Except Fault Unit) :=
  perform ("create tenant '" ++ d.id ++ "'") (r.request ctx .post none (some d)) onSuccess

/-- Brings a registered tenant up to date. -/
def replace (r : Remote) (ctx : RequestContext) (d : Descriptor) :
    Program Outside (Except Fault Unit) :=
  perform ("update tenant '" ++ d.id ++ "'") (r.request ctx .put (some d.id) (some d)) onSuccess

/-- Removes a tenant. -/
def erase (r : Remote) (ctx : RequestContext) (name : String) : Program Outside (Except Fault Unit) :=
  perform ("delete tenant '" ++ name ++ "'") (r.request ctx .delete (some name) none)
    onSuccessOrAbsence

end Remote

end Tenancy.Registry
