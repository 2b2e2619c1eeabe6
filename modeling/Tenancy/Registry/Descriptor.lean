import Tenancy.Tenant

/-!
# Tenants in the registry

The registry files a tenant under its name, which is also the id it knows the tenant by.
-/

namespace Tenancy.Registry

open Json (Codec Field Record)

/-- What the registry keeps about a tenant. -/
structure Descriptor where
  id : String
  name : String
  description : Option String
  deriving DecidableEq, Repr

/-- The wire form of a descriptor. -/
def Descriptor.record : Record Descriptor where
  name := "RegistryTenant"
  fields :=
    [.required "id" .string (·.id) fun v s => { s with id := v },
     .required "name" .string (·.name) fun v s => { s with name := v },
     (Field.present "description" .string (·.description)
       fun v s => { s with description := v }).mayEnd]
  blank := ⟨"", "", none⟩
  strict := false

/-- Descriptors in JSON. -/
def Descriptor.codec : Codec Descriptor := record.codec

/-- A tenant as the registry keeps it. -/
def Descriptor.ofTenant (t : Tenant) : Descriptor := ⟨t.name, t.name, t.description⟩

end Tenancy.Registry
