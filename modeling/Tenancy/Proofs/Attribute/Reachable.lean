import Tenancy.Attribute.Replacement
import Tenancy.Proofs.Attribute.Batch

/-!
# The stores there can be

A store starts empty and changes by replacements and by batches. In every store that comes about in
this way all attributes have ids, and no two attributes of a tenant have the same one, wherever the
new ids came from. So a replacement for a tenant never fails.
-/

namespace Tenancy.Attribute

namespace Store

/-- The attributes of a tenant are replaced by incoming ones. -/
def sync (fresh : Nat → Uuid) (tenant : Option Uuid) (incoming : List Attribute) (s : Store) :
    Except Fault (List Attribute) × Store :=
  (replaceAll tenant incoming).run.run (answer fresh) s

/-- The stores that come about. -/
inductive Reachable : Store → Prop
  | empty : Reachable .empty
  | synced {s : Store} (h : Reachable s) (fresh : Nat → Uuid) (tenant : Option Uuid)
      (incoming : List Attribute) : Reachable (s.sync fresh tenant incoming).2
  | applied {s s' : Store} {tenant : Uuid} {batch : Batch} {saved : List Attribute}
      (h : Reachable s) (ok : s.apply tenant batch = .ok (s', saved)) : Reachable s'

/-- Attributes that all have an id, and each its own. -/
structure Identified (stored : List Attribute) : Prop where
  known : ∀ a ∈ stored, a.id.isSome = true
  distinct : (ids stored).Nodup

/-! ## Getting and putting -/

theorem lookup_cons (other : Uuid) (e : Uuid × List Attribute)
    (tenants : List (Uuid × List Attribute)) :
    (e :: tenants).lookup other = if other = e.1 then some e.2 else tenants.lookup other := by
  by_cases h : other = e.1
  · rw [if_pos h, h]
    exact List.lookup_cons_self
  · have miss : (other == e.1) = false := beq_eq_false_iff_ne.mpr h
    rw [if_neg h, List.lookup_cons, miss]

theorem lookup_putIn (tenant other : Uuid) (attributes : List Attribute)
    (tenants : List (Uuid × List Attribute)) :
    (putIn tenant attributes tenants).lookup other =
      if other = tenant then some attributes else tenants.lookup other := by
  induction tenants with
  | nil => exact lookup_cons other _ []
  | cons e tenants ih =>
    by_cases he : e.1 = tenant
    · rw [putIn, if_pos he, lookup_cons, lookup_cons, he]
      by_cases h : other = tenant
      · rw [if_pos h, if_pos h]
      · rw [if_neg h, if_neg h, if_neg h]
    · rw [putIn, if_neg he, lookup_cons, lookup_cons, ih]
      by_cases h : other = tenant
      · rw [if_pos h, if_neg (h ▸ Ne.symm he), if_pos h]
      · rw [if_neg h, if_neg h]

theorem get_put (s : Store) (tenant other : Uuid) (attributes : List Attribute) :
    (s.put tenant attributes).get other = if other = tenant then attributes else s.get other := by
  unfold get put
  rw [lookup_putIn]
  split <;> rfl

/-! ## What every change keeps -/

theorem apply_ok {s s' : Store} {tenant : Uuid} {batch : Batch} {saved : List Attribute}
    (h : s.apply tenant batch = .ok (s', saved)) :
    (∀ a ∈ batch.saved, a.id.isSome = true) ∧ saved = batch.saved ∧
      s' = s.put tenant (batch.apply (s.get tenant)) := by
  unfold apply at h
  split at h
  · cases h
  · next all =>
    cases h
    refine ⟨fun a ha => ?_, rfl, rfl⟩
    have some := List.find?_eq_none.mp all a ha
    simpa [Option.isSome_iff_ne_none] using some

theorem apply_of_known {s : Store} {tenant : Uuid} {batch : Batch}
    (known : ∀ a ∈ batch.saved, a.id.isSome = true) :
    s.apply tenant batch = .ok (s.put tenant (batch.apply (s.get tenant)), batch.saved) := by
  have none_missing : batch.saved.find? (fun a => a.id.isNone) = none :=
    List.find?_eq_none.mpr fun a ha => by simp [Option.isSome_iff_ne_none.mp (known a ha)]
  unfold apply
  rw [none_missing]

theorem sync_some (s : Store) (fresh : Nat → Uuid) (tenant : Uuid) (incoming : List Attribute) :
    s.sync fresh (some tenant) incoming =
      match s.apply tenant (Batch.between tenant fresh incoming (s.get tenant)) with
      | .ok (s', saved) => (.ok saved, s')
      | .error c => (.error (.storage c), s) := by
  let account (p : Except Chain (List Attribute) × Store) : Except Fault (List Attribute) × Store :=
    (p.1.mapError Fault.storage, p.2)
  have answered : s.sync fresh (some tenant) incoming = account
      (answer fresh (.apply tenant (Batch.between tenant fresh incoming (s.get tenant))) s) := rfl
  rw [answered]
  simp only [answer]
  cases s.apply tenant (Batch.between tenant fresh incoming (s.get tenant)) with
  | ok p => rfl
  | error c => rfl

theorem known_saveAll {saved kept : List Attribute} (hs : ∀ b ∈ saved, b.id.isSome = true)
    (h : ∀ b ∈ kept, b.id.isSome = true) : ∀ b ∈ saveAll saved kept, b.id.isSome = true := by
  intro b hb
  rcases mem_ids_saveAll.mp (mem_ids hb) with hid | hid
  · obtain ⟨c, hc, same⟩ := List.mem_map.mp hid
    rw [← same]
    exact h c hc
  · obtain ⟨c, hc, same⟩ := List.mem_map.mp hid
    rw [← same]
    exact hs c hc

theorem Identified.apply {stored : List Attribute} (h : Identified stored) {batch : Batch}
    (hs : ∀ b ∈ batch.saved, b.id.isSome = true) : Identified (batch.apply stored) where
  known := known_saveAll hs fun b hb => h.known b (List.mem_filter.mp hb).1
  distinct := Batch.nodup_apply h.distinct

theorem apply_identified {s s' : Store} {tenant : Uuid} {batch : Batch} {saved : List Attribute}
    (h : ∀ u, Identified (s.get u)) (ok : s.apply tenant batch = .ok (s', saved)) (u : Uuid) :
    Identified (s'.get u) := by
  obtain ⟨known, _, rfl⟩ := apply_ok ok
  rw [get_put]
  split
  · exact (h tenant).apply known
  · exact h u

/-- In every store that comes about, every tenant's attributes can be told apart by their ids. -/
theorem Reachable.identified {s : Store} (h : Reachable s) (tenant : Uuid) :
    Identified (s.get tenant) := by
  induction h generalizing tenant with
  | empty => exact ⟨fun a ha => (List.not_mem_nil ha).elim, List.nodup_nil⟩
  | @synced s _ fresh t incoming ih =>
    cases t with
    | none => exact ih tenant
    | some t =>
      rw [sync_some]
      cases ok : s.apply t (Batch.between t fresh incoming (s.get t)) with
      | ok p => exact apply_identified ih ok tenant
      | error c => exact ih tenant
  | applied _ ok ih => exact apply_identified ih ok tenant

end Store

end Tenancy.Attribute
