import Tenancy.Attribute.Store
import Tenancy.Fault
import Tenancy.Matching
import Tenancy.Program

/-!
# Replacing a tenant's attributes

A tenant's attributes are replaced by an incoming list. Attributes are matched by key: a stored one
that finds a partner keeps its id and takes the partner's value, one that finds none is removed, and
what is left of the incoming list is added under the tenant, with a new id where none was given.
-/

namespace Tenancy.Attribute

/-- Attributes are matched by their keys. -/
def byKey (a b : Attribute) : Ordering := compare a.key b.key

/-- A stored attribute with the content of an incoming one. -/
def refresh (incoming stored : Attribute) : Attribute :=
  { stored with key := incoming.key, value := incoming.value }

/-- An incoming attribute as it is stored under a tenant; `fresh` serves if it has no id. -/
def stamp (tenant fresh : Uuid) (a : Attribute) : Attribute :=
  { a with id := some (a.id.getD fresh), tenantId := some tenant }

/-- Stamps attributes one after the other; the `n`-th new id goes to the `n`-th that has none. -/
def stampAll (tenant : Uuid) (fresh : Nat → Uuid) : Nat → List Attribute → List Attribute
  | _, [] => []
  | n, a :: rest =>
    stamp tenant (fresh n) a :: stampAll tenant fresh (if a.id.isSome then n else n + 1) rest

/-- The incoming attributes that a list of changes adds. -/
def addedBy (changes : List (Matching.Change Attribute)) : List Attribute :=
  changes.filterMap fun
    | .add a => some a
    | _ => none

/-- The stored attributes that a list of changes updates, with their new content. -/
def updatedBy (changes : List (Matching.Change Attribute)) : List Attribute :=
  changes.filterMap fun
    | .update i s => some (refresh i s)
    | _ => none

/-- The stored attributes that a list of changes deletes. -/
def deletedBy (changes : List (Matching.Change Attribute)) : List Attribute :=
  changes.filterMap fun
    | .delete s => some s
    | _ => none

/-- The batch that turns the stored attributes into the incoming ones: what is added, then what is
updated. -/
def Batch.between (tenant : Uuid) (fresh : Nat → Uuid) (incoming stored : List Attribute) : Batch :=
  let changes := Matching.changes byKey incoming stored
  { removed := deletedBy changes
    saved := stampAll tenant fresh 0 (addedBy changes) ++ updatedBy changes }

/-- A question to a repository of attributes. -/
inductive Repository.Query where
  | find (tenant : Uuid)
  | apply (tenant : Uuid) (batch : Batch)
  /-- A supply of ids that are not in use. -/
  | freshIds

/-- The answers of a repository. -/
def Repository.Query.Answer : Repository.Query → Type
  | .find _ => Except Chain (List Attribute)
  | .apply _ _ => Except Chain (List Attribute)
  | .freshIds => Nat → Uuid

/-- A repository of attributes. -/
def Repository : Interface := ⟨Repository.Query, Repository.Query.Answer⟩

namespace Repository

/-- Asks one question. -/
def ask (q : Query) : Program Repository q.Answer := Program.query (I := Repository) q

end Repository

/-- Replaces the attributes of a tenant and returns what was saved. -/
def replaceAll (tenant : Option Uuid) (incoming : List Attribute) :
    ExceptT Fault (Program Repository) (List Attribute) := do
  let some tenant := tenant | throw (.invalid "tenant_id" "tenant identifier is required")
  let storage {α : Type} (x : Program Repository (Except Chain α)) :
      ExceptT Fault (Program Repository) α := ExceptT.mk ((·.mapError Fault.storage) <$> x)
  let stored ← storage (Repository.ask (.find tenant))
  let fresh ← liftM (Repository.ask .freshIds)
  storage (Repository.ask (.apply tenant (Batch.between tenant fresh incoming stored)))

/-- The same for callers of the tenant service. -/
def replaceAllPublic (tenant : Option Uuid) (incoming : List Attribute) :
    ExceptT PublicError (Program Repository) (List Attribute) :=
  ExceptT.mk ((·.mapError Fault.publish) <$> (replaceAll tenant incoming).run)

/-- How a store answers a repository's questions, given the ids that are free. -/
def Store.answer (fresh : Nat → Uuid) : (q : Repository.Query) → StateM Store q.Answer
  | .find tenant => fun s => (.ok (s.get tenant), s)
  | .apply tenant batch => fun s =>
    match s.apply tenant batch with
    | .ok (s', saved) => (.ok saved, s')
    | .error c => (.error c, s)
  | .freshIds => fun s => (fresh, s)

end Tenancy.Attribute
