import Tenancy.Creation
import Tenancy.Facility

/-!
# Work at the identity provider

Work is a session over the facilities of provisioning. It is made of calls: one by one, several with
one token that are tried again together, or creations. Where the provider is, it does not say; it is
carried out through an endpoint.
-/

namespace Tenancy

/-- A session of provisioning. -/
abbrev Work (α : Type) := Session (Program Facility) Fault α

namespace Work

/-- A question whose answer cannot be a failure. -/
def ask (q : Facility.Query) : Work q.Answer := Session.lift (Except.ok <$> Facility.ask q)

/-- Several calls that are made with one token and tried again together. -/
abbrev Attempt (α : Type) := ExceptT Setback (Program Facility) α

/-- One call of an attempt. -/
def Attempt.call (c : Provider.Call) (token : Token) : Attempt c.Answer :=
  ExceptT.mk ((·.mapError Setback.raw) <$> Facility.call c token)

/-- Makes one call. -/
def call (context : String) (c : Provider.Call) : Work c.Answer :=
  Session.access Facility.issue context fun token => (Attempt.call c token).run

/-- Makes several calls with one token. -/
def calls {α : Type} (context : String) (attempt : Token → Attempt α) : Work α :=
  Session.access Facility.issue context fun token => (attempt token).run

/-- Creates something. -/
def create {ρ : Type} [Resource ρ] (r : ρ)
    (attempt : Token → Program Facility (Except ProviderError Receipt)) : Work String :=
  Session.create Facility.issue r attempt

/-- The work as it is carried out at a provider on the network. -/
def through {α : Type} (e : Provider.Endpoint) (w : Work α) : Session (Program Outside) Fault α :=
  w.hoist fun p => p.via e.find

end Work

end Tenancy
