import Tenancy.Proofs.Attribute.Identity

/-!
# What holds of every store

A store starts empty, and replacements and batches change it, for any tenants and in any order. Those
that fail leave it as it is. After all of them every attribute has an id of its own. If there were
only replacements, every attribute is stamped with the tenant that it is stored under; and if no
replacement had two attributes with one key, no tenant has either.
-/

namespace Tenancy.Attribute.Store

/-- The operations that change a store. -/
inductive Operation where
  | sync (tenant : Option Uuid) (incoming : List Attribute)
  | upsertAll (tenant : Option Uuid) (incoming : List Attribute)
  | apply (tenant : Uuid) (batch : Batch)

namespace Operation

/-- The store after an operation that makes its new ids from `fresh`, successful or not. -/
def perform (fresh : Nat → Uuid) (s : Store) : Operation → Store
  | .sync tenant incoming => (s.sync fresh tenant incoming).2
  | .upsertAll tenant incoming => ((replaceAllPublic tenant incoming).run.run (answer fresh) s).2
  | .apply tenant batch => (answer fresh (.apply tenant batch) s).2

/-- What a replacement puts in place of a tenant's attributes. -/
def payload? : Operation → Option (List Attribute)
  | .sync _ incoming => some incoming
  | .upsertAll _ incoming => some incoming
  | .apply _ _ => none

end Operation

/-- The store after a history of operations, each with the ids that are made in it. -/
def after (ops : List (Operation × (Nat → Uuid))) : Store :=
  ops.foldl (fun s o => o.1.perform o.2 s) .empty

variable {s : Store} {o : Operation} {fresh : Nat → Uuid}

/-! ## One operation -/

theorem perform_upsertAll (s : Store) (fresh : Nat → Uuid) (tenant : Option Uuid)
    (incoming : List Attribute) : (Operation.upsertAll tenant incoming).perform fresh s =
      (s.sync fresh tenant incoming).2 := by
  have published := Program.run_bind (answer fresh) (replaceAll tenant incoming).run fun v =>
    .done (v.mapError Fault.publish)
  exact congrArg Prod.snd (congrFun published s)

theorem Reachable.perform (reach : s.Reachable) (o : Operation) (fresh : Nat → Uuid) :
    (o.perform fresh s).Reachable := by
  cases o with
  | sync tenant incoming => exact .synced reach fresh tenant incoming
  | upsertAll tenant incoming =>
    rw [perform_upsertAll]
    exact .synced reach fresh tenant incoming
  | apply tenant batch =>
    show (answer fresh (.apply tenant batch) s).2.Reachable
    simp only [answer]
    cases ok : s.apply tenant batch with
    | ok p => exact .applied reach ok
    | error c => exact reach

theorem sync_get (reach : s.Reachable) (fresh : Nat → Uuid) (t : Option Uuid)
    (incoming : List Attribute) (tenant : Uuid) :
    (s.sync fresh t incoming).2.get tenant = s.get tenant ∨
      (s.sync fresh t incoming).2.get tenant =
        (Batch.between tenant fresh incoming (s.get tenant)).apply (s.get tenant) := by
  cases t with
  | none => exact .inl rfl
  | some t =>
    rw [sync_ok reach, get_put]
    split
    · next here =>
      rw [here]
      exact .inr rfl
    · exact .inl rfl

/-- A replacement leaves a tenant's attributes alone or replaces them by what comes in. -/
theorem perform_get (reach : s.Reachable) {incoming : List Attribute}
    (replaces : o.payload? = some incoming) (tenant : Uuid) :
    (o.perform fresh s).get tenant = s.get tenant ∨
      (o.perform fresh s).get tenant =
        (Batch.between tenant fresh incoming (s.get tenant)).apply (s.get tenant) := by
  cases o with
  | sync t incoming =>
    cases replaces
    exact sync_get reach fresh t incoming tenant
  | upsertAll t incoming =>
    cases replaces
    rw [perform_upsertAll]
    exact sync_get reach fresh t incoming tenant
  | apply t batch => cases replaces

theorem perform_stamped (reach : s.Reachable) (replaces : o.payload?.isSome) {tenant : Uuid}
    (h : ∀ a ∈ s.get tenant, a.tenantId = some tenant) :
    ∀ a ∈ (o.perform fresh s).get tenant, a.tenantId = some tenant := by
  obtain ⟨incoming, replaces⟩ := Option.isSome_iff_exists.mp replaces
  rcases perform_get reach replaces tenant with same | replaced
  · rw [same]
    exact h
  · rw [replaced]
    intro a ha
    exact between_stamped tenant fresh incoming h a
      (between_subset tenant fresh incoming (reach.identified tenant) ha)

theorem perform_keys (reach : s.Reachable) {incoming : List Attribute}
    (replaces : o.payload? = some incoming) (keys : (incoming.map (·.key)).Nodup) {tenant : Uuid}
    (h : ((s.get tenant).map (·.key)).Nodup) :
    (((o.perform fresh s).get tenant).map (·.key)).Nodup := by
  rcases perform_get reach replaces tenant with same | replaced
  · rw [same]
    exact h
  · rw [replaced]
    exact between_apply_keys tenant fresh incoming (reach.identified tenant) keys

/-! ## All operations -/

/-- What the empty store has and every operation of a history keeps holds after all of them. -/
theorem after_induction {P : Store → Prop} (ops : List (Operation × (Nat → Uuid))) (start : P .empty)
    (step : ∀ o ∈ ops, ∀ s : Store, s.Reachable → P s → P (o.1.perform o.2 s)) : P (after ops) := by
  have run (ops : List (Operation × (Nat → Uuid))) (s : Store) (reach : s.Reachable) (h : P s)
      (step : ∀ o ∈ ops, ∀ s : Store, s.Reachable → P s → P (o.1.perform o.2 s)) :
      P (ops.foldl (fun s o => o.1.perform o.2 s) s) := by
    induction ops generalizing s with
    | nil => exact h
    | cons o ops ih =>
      have first : P (o.1.perform o.2 s) := step o List.mem_cons_self s reach h
      exact ih _ (reach.perform o.1 o.2) first fun o ho => step o (List.mem_cons_of_mem _ ho)
  exact run ops .empty .empty start step

theorem after_reachable (ops : List (Operation × (Nat → Uuid))) : (after ops).Reachable :=
  after_induction ops .empty fun o _ _ reach _ => reach.perform o.1 o.2

/-- After any history every attribute has an id of its own; after replacements alone each is stamped
with its tenant; and after replacements with distinct keys a tenant's keys are distinct. -/
theorem after_invariant (ops : List (Operation × (Nat → Uuid))) (tenant : Uuid) :
    Identified ((after ops).get tenant) ∧
      ((∀ o ∈ ops, o.1.payload?.isSome) →
        ∀ a ∈ (after ops).get tenant, a.tenantId = some tenant) ∧
      ((∀ o ∈ ops, ∃ incoming, o.1.payload? = some incoming ∧ (incoming.map (·.key)).Nodup) →
        (((after ops).get tenant).map (·.key)).Nodup) := by
  refine ⟨(after_reachable ops).identified tenant, fun replaced => ?_, fun replaced => ?_⟩
  · refine after_induction (P := fun s => ∀ a ∈ s.get tenant, a.tenantId = some tenant) ops ?_ ?_
    · exact fun a ha => (List.not_mem_nil ha).elim
    · exact fun o ho s reach h => perform_stamped reach (replaced o ho) h
  · refine after_induction (P := fun s => ((s.get tenant).map (·.key)).Nodup) ops List.nodup_nil ?_
    intro o ho s reach h
    obtain ⟨incoming, replaces, keys⟩ := replaced o ho
    exact perform_keys reach replaces keys h

/-- Replacements whose attributes claim one id, one without a tenant among them. -/
def claims : List (Operation × (Nat → Uuid)) :=
  [(.sync (some owner) [⟨some ⟨1⟩, none, "a", "1"⟩, ⟨some ⟨1⟩, none, "b", "2"⟩], supply),
    (.upsertAll none [⟨none, none, "c", "3"⟩], supply),
    (.upsertAll (some owner) [⟨some ⟨1⟩, none, "a", "4"⟩, ⟨none, none, "b", "5"⟩], supply)]

theorem claims_invariant :
    Identified ((after claims).get owner) ∧
      (∀ a ∈ (after claims).get owner, a.tenantId = some owner) ∧
      (((after claims).get owner).map (·.key)).Nodup := by
  obtain ⟨identified, stamped, keys⟩ := after_invariant claims owner
  have replaced : ∀ o ∈ claims,
      ∃ incoming, o.1.payload? = some incoming ∧ (incoming.map (·.key)).Nodup := by
    intro o ho
    simp only [claims, List.mem_cons, List.not_mem_nil, or_false] at ho
    rcases ho with rfl | rfl | rfl <;> exact ⟨_, rfl, by decide⟩
  refine ⟨identified, stamped fun o ho => ?_, keys replaced⟩
  obtain ⟨incoming, replaces, _⟩ := replaced o ho
  exact Option.isSome_iff_exists.mpr ⟨incoming, replaces⟩

end Tenancy.Attribute.Store
