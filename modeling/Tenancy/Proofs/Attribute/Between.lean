import Tenancy.Proofs.Attribute.Reachable
import Tenancy.Proofs.Matching.Shares

/-!
# What a replacement saves

A replacement saves what it adds, stamped, and after it what it updates. The attributes that it does
not remove are the ones that it updates. So if the ids that it saves are distinct, the tenant is left
with the updated attributes in their old order and the added ones after them, which are the saved
ones in another order; and if they are not, attributes are lost.
-/

namespace Tenancy.Attribute

open Matching (classOf paired added deleted changes)

instance : Std.TransCmp byKey where
  eq_swap := Std.OrientedOrd.eq_swap
  isLE_trans := Std.TransOrd.isLE_trans

theorem byKey_eq_iff {a b : Attribute} : byKey a b = .eq ↔ a.key = b.key := by
  unfold byKey
  exact Std.LawfulEqCmp.compare_eq_iff_eq

/-- The content of an attribute. -/
def content (a : Attribute) : String × String := (a.key, a.value)

/-- The attributes with a key, in order. -/
def under (key : String) (attributes : List Attribute) : List Attribute :=
  attributes.filter fun a => a.key = key

theorem classOf_byKey (k : Attribute) (attributes : List Attribute) :
    classOf byKey k attributes = under k.key attributes := by
  refine List.filter_congr fun a _ => ?_
  rw [Bool.eq_iff_iff, Matching.alike_iff, byKey_eq_iff, decide_eq_true_iff]

/-! ## Stamps -/

section Stamps

variable (tenant : Uuid) (fresh : Nat → Uuid)

theorem stampAll_content (n : Nat) (l : List Attribute) :
    (stampAll tenant fresh n l).map content = l.map content := by
  induction l generalizing n with
  | nil => rfl
  | cons a l ih => exact congrArg (content a :: ·) (ih _)

theorem stampAll_known (n : Nat) (l : List Attribute) :
    ∀ a ∈ stampAll tenant fresh n l, a.id.isSome = true ∧ a.tenantId = some tenant := by
  induction l generalizing n with
  | nil => exact fun a ha => (List.not_mem_nil ha).elim
  | cons b l ih =>
    intro a ha
    rcases List.mem_cons.mp ha with rfl | ha
    · exact ⟨rfl, rfl⟩
    · exact ih _ a ha

/-- How many attributes have no id. -/
def unnamed (l : List Attribute) : Nat := (l.filter fun a => a.id.isNone).length

/-- The ids that attributes come with, and as many new ones as they lack. -/
theorem stampAll_ids (n : Nat) (l : List Attribute) :
    (ids (stampAll tenant fresh n l)).Perm
      ((l.filterMap (·.id)).map some ++ (List.range' n (unnamed l)).map fun i => some (fresh i)) := by
  induction l generalizing n with
  | nil => exact List.Perm.refl []
  | cons a l ih =>
    cases ha : a.id with
    | some i =>
      have stamped : ids (stampAll tenant fresh n (a :: l)) =
          some i :: ids (stampAll tenant fresh n l) := by
        simp [stampAll, stamp, ids, ha]
      have named : unnamed (a :: l) = unnamed l := by simp [unnamed, ha]
      rw [stamped, named, List.filterMap_cons_some ha]
      exact (ih n).cons (some i)
    | none =>
      have stamped : ids (stampAll tenant fresh n (a :: l)) =
          some (fresh n) :: ids (stampAll tenant fresh (n + 1) l) := by
        simp [stampAll, stamp, ids, ha]
      have lacking : unnamed (a :: l) = unnamed l + 1 := by simp [unnamed, ha]
      rw [stamped, lacking, List.filterMap_cons_none ha, List.range'_succ, List.map_cons]
      exact ((ih (n + 1)).cons _).trans List.perm_middle.symm

end Stamps

/-! ## The batch -/

section Replacement

variable (tenant : Uuid) (fresh : Nat → Uuid) (incoming stored : List Attribute)

/-- The stored attributes that find partners, with their new content. -/
def updated : List Attribute :=
  (paired (changes byKey incoming stored)).map fun p => refresh p.1 p.2

/-- The incoming attributes that find no partners, as they are stored. -/
def inserted : List Attribute :=
  stampAll tenant fresh 0 (added (changes byKey incoming stored))

theorem updatedBy_eq (cs : List (Matching.Change Attribute)) :
    updatedBy cs = (paired cs).map fun p => refresh p.1 p.2 := by
  unfold updatedBy paired
  rw [List.map_filterMap]
  exact List.filterMap_congr fun c _ => by cases c <;> rfl

theorem addedBy_eq (cs : List (Matching.Change Attribute)) : addedBy cs = added cs :=
  List.filterMap_congr fun c _ => by cases c <;> rfl

theorem deletedBy_eq (cs : List (Matching.Change Attribute)) : deletedBy cs = deleted cs :=
  List.filterMap_congr fun c _ => by cases c <;> rfl

theorem between_saved : (Batch.between tenant fresh incoming stored).saved =
    inserted tenant fresh incoming stored ++ updated incoming stored := by
  unfold updated inserted
  rw [← updatedBy_eq, ← addedBy_eq]
  rfl

theorem between_content :
    ((Batch.between tenant fresh incoming stored).saved.map content).Perm (incoming.map content) := by
  have refreshed : (updated incoming stored).map content =
      ((paired (changes byKey incoming stored)).map Prod.fst).map content := by
    unfold updated
    rw [List.map_map, List.map_map]
    rfl
  rw [between_saved, List.map_append, inserted, stampAll_content, refreshed]
  refine List.perm_append_comm.trans ?_
  rw [← List.map_append]
  exact (Matching.changes_incoming incoming stored).map content

variable {stored}

/-- The ids of the stored attributes that find partners, and of those that are deleted. -/
theorem partners_distinct (distinct : (ids stored).Nodup) :
    (ids ((paired (changes byKey incoming stored)).map Prod.snd) ++
      ids (deleted (changes byKey incoming stored))).Nodup := by
  rw [← ids_append]
  exact ((Matching.changes_stored incoming stored).map _).nodup_iff.mpr distinct

theorem ids_updated (stored : List Attribute) : ids (updated incoming stored) =
    ids ((paired (changes byKey incoming stored)).map Prod.snd) := by
  unfold ids updated
  rw [List.map_map, List.map_map]
  rfl

theorem updated_distinct (distinct : (ids stored).Nodup) :
    (ids (updated incoming stored)).Nodup := by
  rw [ids_updated]
  exact (List.nodup_append.mp (partners_distinct incoming distinct)).1

/-- No stored attribute that finds a partner has the id of one that is deleted. -/
theorem paired_apart (distinct : (ids stored).Nodup) :
    ∀ p ∈ paired (changes byKey incoming stored), ∀ r ∈ deleted (changes byKey incoming stored),
      r.id ≠ p.2.id := by
  intro p hp r hr same
  have here : p.2.id ∈ ids ((paired (changes byKey incoming stored)).map Prod.snd) :=
    mem_ids (List.mem_map_of_mem hp)
  rw [← same] at here
  exact List.disjoint_of_nodup_append (partners_distinct incoming distinct) here (mem_ids hr)

/-- What is not removed is what is updated. -/
theorem between_kept (distinct : (ids stored).Nodup) :
    (Batch.between tenant fresh incoming stored).kept stored =
      (paired (changes byKey incoming stored)).map Prod.snd := by
  have removed : (Batch.between tenant fresh incoming stored).removed =
      deleted (changes byKey incoming stored) := deletedBy_eq _
  unfold Batch.kept
  rw [removed]
  refine Matching.changes_kept (fun p hp => ?_) fun a ha => ?_
  · rw [Bool.not_eq_true', List.any_eq_false]
    intro r hr same
    exact paired_apart incoming distinct p hp r hr (of_decide_eq_true same)
  · rw [Bool.not_eq_false', List.any_eq_true]
    exact ⟨a, ha, decide_eq_true rfl⟩

theorem between_same (distinct : (ids stored).Nodup) :
    ids ((Batch.between tenant fresh incoming stored).kept stored) = ids (updated incoming stored) := by
  rw [between_kept tenant fresh incoming distinct, ids_updated]

/-- All that is saved has an id. -/
theorem between_known (known : ∀ a ∈ stored, a.id.isSome = true) :
    ∀ a ∈ (Batch.between tenant fresh incoming stored).saved, a.id.isSome = true := by
  intro a ha
  rw [between_saved] at ha
  rcases List.mem_append.mp ha with ha | ha
  · exact (stampAll_known tenant fresh 0 _ a ha).1
  · obtain ⟨p, hp, rfl⟩ := List.mem_map.mp ha
    have stored_too : p.2 ∈ stored := (Matching.changes_stored incoming stored).subset
      (List.mem_append_left _ (List.mem_map_of_mem hp))
    exact known p.2 stored_too

/-- If incoming keys are distinct, so are the keys that are saved. -/
theorem between_keys (keys : (incoming.map (·.key)).Nodup) :
    ((Batch.between tenant fresh incoming stored).saved.map (·.key)).Nodup := by
  have perm := (between_content tenant fresh incoming stored).map Prod.fst
  rw [List.map_map, List.map_map] at perm
  exact perm.nodup_iff.mpr keys

theorem between_stamped (stamped : ∀ a ∈ stored, a.tenantId = some tenant) :
    ∀ a ∈ (Batch.between tenant fresh incoming stored).saved, a.tenantId = some tenant := by
  intro a ha
  rw [between_saved] at ha
  rcases List.mem_append.mp ha with ha | ha
  · exact (stampAll_known tenant fresh 0 _ a ha).2
  · obtain ⟨p, hp, rfl⟩ := List.mem_map.mp ha
    have stored_too : p.2 ∈ stored := (Matching.changes_stored incoming stored).subset
      (List.mem_append_left _ (List.mem_map_of_mem hp))
    exact stamped p.2 stored_too

/-! ## The outcome -/

section Outcome

variable (h : Store.Identified stored)
include h

theorem between_apply (distinct : (ids (Batch.between tenant fresh incoming stored).saved).Nodup) :
    (Batch.between tenant fresh incoming stored).apply stored =
      updated incoming stored ++ inserted tenant fresh incoming stored :=
  Batch.apply_of_distinct (between_saved tenant fresh incoming stored)
    (between_same tenant fresh incoming h.distinct) distinct

/-- Only what was saved is left. -/
theorem between_subset : (Batch.between tenant fresh incoming stored).apply stored ⊆
    (Batch.between tenant fresh incoming stored).saved := by
  intro a ha
  rw [Batch.apply_eq] at ha
  rcases of_mem_saveAll (Batch.nodup_kept h.distinct) ha with saved | ⟨kept, unsaved⟩
  · exact saved
  · have updated_too : a.id ∈ ids (updated incoming stored) :=
      between_same tenant fresh incoming h.distinct ▸ mem_ids kept
    rw [between_saved, ids_append] at unsaved
    exact (unsaved (List.mem_append_right _ updated_too)).elim

/-- What is left is among what was saved, where no two have the same key; and it has no attribute
twice, since ids are distinct. -/
theorem between_apply_keys (keys : (incoming.map (·.key)).Nodup) :
    (((Batch.between tenant fresh incoming stored).apply stored).map (·.key)).Nodup := by
  have once : ((Batch.between tenant fresh incoming stored).apply stored).Nodup :=
    (Batch.nodup_apply h.distinct).of_map
  refine List.Nodup.map_on (fun a ha b hb same_key => ?_) once
  exact List.inj_on_of_nodup_map (between_keys tenant fresh incoming keys)
    (between_subset tenant fresh incoming h ha) (between_subset tenant fresh incoming h hb) same_key

theorem between_short
    (clash : ¬ (ids (Batch.between tenant fresh incoming stored).saved).Nodup) :
    ((Batch.between tenant fresh incoming stored).apply stored).length < incoming.length := by
  have covered : ∀ i ∈ ids ((Batch.between tenant fresh incoming stored).kept stored),
      i ∈ ids (Batch.between tenant fresh incoming stored).saved := by
    rw [between_same tenant fresh incoming h.distinct, between_saved, ids_append]
    exact fun i hi => List.mem_append_right _ hi
  have saved : ((Batch.between tenant fresh incoming stored).saved.map content).length =
      (incoming.map content).length := (between_content tenant fresh incoming stored).length_eq
  rw [List.length_map, List.length_map] at saved
  rw [← saved]
  exact Batch.apply_short h.distinct covered clash

/-- The contents that are left are the incoming ones if and only if the saved ids are distinct. -/
theorem between_content_iff :
    (((Batch.between tenant fresh incoming stored).apply stored).map content).Perm
        (incoming.map content) ↔
      (ids (Batch.between tenant fresh incoming stored).saved).Nodup := by
  constructor
  · intro perm
    by_contra clash
    have short := between_short tenant fresh incoming h clash
    have long := perm.length_eq
    rw [List.length_map, List.length_map] at long
    omega
  · intro distinct
    rw [between_apply tenant fresh incoming h distinct]
    refine List.Perm.trans ?_ (between_content tenant fresh incoming stored)
    rw [between_saved]
    exact List.perm_append_comm.map content

/-- What is left is what was saved if and only if the saved ids are distinct. -/
theorem between_saved_iff :
    (Batch.between tenant fresh incoming stored).saved.Perm
        ((Batch.between tenant fresh incoming stored).apply stored) ↔
      (ids (Batch.between tenant fresh incoming stored).saved).Nodup := by
  constructor
  · intro perm
    have same_ids : (ids (Batch.between tenant fresh incoming stored).saved).Perm
        (ids ((Batch.between tenant fresh incoming stored).apply stored)) := perm.map _
    exact same_ids.nodup_iff.mpr (Batch.nodup_apply h.distinct)
  · intro distinct
    rw [between_apply tenant fresh incoming h distinct, between_saved]
    exact List.perm_append_comm

end Outcome

end Replacement

namespace Store

variable {s : Store} (reach : s.Reachable) (fresh : Nat → Uuid) (tenant : Uuid)
  (incoming : List Attribute)
include reach

/-- A replacement for a tenant saves its batch. -/
theorem sync_ok : s.sync fresh (some tenant) incoming =
    (.ok (Batch.between tenant fresh incoming (s.get tenant)).saved,
      s.put tenant ((Batch.between tenant fresh incoming (s.get tenant)).apply (s.get tenant))) := by
  have known := between_known tenant fresh incoming (reach.identified tenant).known
  rw [sync_some, apply_of_known known]

end Store

end Tenancy.Attribute
