import Tenancy.Chain
import Tenancy.Tenant

/-!
# Stored attributes

The store keeps a list of attributes for every tenant. A batch of changes takes some attributes out,
overwrites those whose id is there already, and puts the others at the end. It is applied as a whole
or, if one of its attributes has no id, not at all.
-/

namespace Tenancy.Attribute

/-- Changes to a tenant's attributes. -/
structure Batch where
  removed : List Attribute
  saved : List Attribute
  deriving DecidableEq, Repr

/-- Overwrites the first attribute with the same id, or puts the new one at the end. -/
def save (a : Attribute) : List Attribute → List Attribute
  | [] => [a]
  | b :: rest => if b.id = a.id then a :: rest else b :: save a rest

/-- The attributes after a batch. -/
def Batch.apply (batch : Batch) (stored : List Attribute) : List Attribute :=
  batch.saved.foldl (fun kept a => save a kept)
    (stored.filter fun a => !batch.removed.any fun r => r.id = a.id)

/-- The attributes of all tenants. -/
structure Store where
  tenants : List (Uuid × List Attribute)
  deriving DecidableEq, Repr

namespace Store

/-- No attributes. -/
def empty : Store := ⟨[]⟩

/-- The attributes of a tenant. -/
def get (s : Store) (tenant : Uuid) : List Attribute := (s.tenants.lookup tenant).getD []

/-- Replaces the list of a tenant. -/
def putIn (tenant : Uuid) (attributes : List Attribute) :
    List (Uuid × List Attribute) → List (Uuid × List Attribute)
  | [] => [(tenant, attributes)]
  | e :: rest =>
    if e.1 = tenant then (tenant, attributes) :: rest else e :: putIn tenant attributes rest

/-- The store with the attributes of a tenant replaced. -/
def put (s : Store) (tenant : Uuid) (attributes : List Attribute) : Store :=
  ⟨putIn tenant attributes s.tenants⟩

/-- Applies a batch to a tenant's attributes; the attributes saved are returned. -/
def apply (s : Store) (tenant : Uuid) (batch : Batch) : Except Chain (Store × List Attribute) :=
  match batch.saved.find? fun a => a.id.isNone with
  | some a => .error (.single ("attribute '" ++ a.key ++ "' has no id"))
  | none => .ok (s.put tenant (batch.apply (s.get tenant)), batch.saved)

end Store

end Tenancy.Attribute
