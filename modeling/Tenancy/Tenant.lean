import Tenancy.Json.Record
import Tenancy.Uuid

/-!
# Tenants

A tenant as the tenant service knows it, its attributes, and the request on whose behalf something
is done.
-/

namespace Tenancy

/-- A tenant. A record that has not been stored yet has no id. -/
structure Tenant where
  id : Option Uuid
  name : String
  description : Option String
  deriving DecidableEq, Repr

/-- An attribute of a tenant. A stored one has an id and knows its tenant; one that comes in with a
request may have neither. -/
structure Attribute where
  id : Option Uuid
  tenantId : Option Uuid
  key : String
  value : String
  deriving DecidableEq, Repr

/-- The request on whose behalf an operation runs. -/
structure RequestContext where
  requestId : Uuid
  callerToken : Option String
  deriving DecidableEq, Repr

namespace Tenant

open Json (Codec Field Record)

/-- The wire form of a tenant; the id is always written. -/
def record : Record Tenant where
  name := "Tenant"
  fields :=
    [(Field.defaulted "id" Uuid.codec.option (·.id) fun v s => { s with id := v }).mustStand,
     .required "name" .string (·.name) fun v s => { s with name := v },
     (Field.present "description" .string (·.description)
       fun v s => { s with description := v }).mayEnd]
  blank := ⟨none, "", none⟩
  strict := false

/-- Tenants in JSON. -/
def codec : Codec Tenant := record.codec

end Tenant

namespace Attribute

open Json (Codec Field Record)

/-- The wire form of an attribute. -/
def record : Record Attribute where
  name := "TenantAttribute"
  fields :=
    [.defaulted "id" Uuid.codec.option (·.id) fun v s => { s with id := v },
     .defaulted "tenant_id" Uuid.codec.option (·.tenantId) fun v s => { s with tenantId := v },
     .required "key" .string (·.key) fun v s => { s with key := v },
     .required "value" .string (·.value) fun v s => { s with value := v }]
  blank := ⟨none, none, "", ""⟩
  strict := false

/-- Attributes in JSON. -/
def codec : Codec Attribute := record.codec

end Attribute

namespace RequestContext

/-- The context in a log line; a caller's token is never shown. -/
def summary (c : RequestContext) : String :=
  let token := match c.callerToken with
    | some _ => "Some(\"[REDACTED]\")"
    | none => "None"
  "OperationContext \x7b request_id: " ++ c.requestId.text ++ ", caller_token: " ++ token ++ " \x7d"

end RequestContext

end Tenancy
