import Tenancy.Proofs.Attribute.SuppliedIds

/-!
# Replacing twice

A replacement that is made again finds its own work. If it is made without ids, what it left has the
incoming contents under every key, in their order, so everything is paired with itself. If its keys
are distinct, attributes may have been lost to ids that are claimed twice; these are added again, but
only under ids that what is left still has. Since updates are saved after additions, each of them
overwrites what took its place, and nothing has moved.
-/

namespace Tenancy.Attribute

open Matching (alike paired added deleted changes)

variable {tenant : Uuid} {fresh : Nat → Uuid} {incoming stored : List Attribute}

theorem mem_under_key {a : Attribute} {l : List Attribute} : a ∈ under a.key l ↔ a ∈ l := by
  simp [under]

theorem eq_nil_of_under {l : List Attribute} (empty : ∀ key, under key l = []) : l = [] := by
  refine List.eq_nil_iff_forall_not_mem.mpr fun a ha => ?_
  have here : a ∈ under a.key l := mem_under_key.mpr ha
  rw [empty] at here
  cases here

/-! ## Settled attributes -/

/-- Stored attributes that can be told apart, and that under each key have the contents of the first
of the incoming ones. -/
structure Settled (incoming stored : List Attribute) : Prop where
  identified : Store.Identified stored
  contents : ∀ key, (under key stored).map content <+: (under key incoming).map content

theorem zip_content {xs ys : List Attribute} (h : ys.map content <+: xs.map content) :
    ∀ p ∈ xs.zip ys, content p.1 = content p.2 := by
  induction ys generalizing xs with
  | nil =>
    intro p hp
    rw [List.zip_nil_right] at hp
    cases hp
  | cons y ys ih =>
    cases xs with
    | nil => exact fun p hp => (List.not_mem_nil hp).elim
    | cons x xs =>
      obtain ⟨first, rest⟩ := List.cons_prefix_cons.mp h
      intro p hp
      rcases List.mem_cons.mp hp with rfl | hp
      · exact first.symm
      · exact ih rest p hp

theorem refresh_same {a b : Attribute} (h : content a = content b) : refresh a b = b := by
  obtain ⟨key, value⟩ := Prod.mk.inj h
  unfold refresh
  rw [key, value]

namespace Settled

variable (h : Settled incoming stored)
include h

theorem deleted_nil : deleted (changes byKey incoming stored) = [] := by
  refine eq_nil_of_under fun key => ?_
  have short := (h.contents key).length_le
  rw [List.length_map, List.length_map] at short
  rw [under_deleted]
  exact List.drop_eq_nil_of_le short

theorem paired_stored : (paired (changes byKey incoming stored)).map Prod.snd = stored := by
  have dropped : ∀ s ∈ deleted (changes byKey incoming stored), true = false := by
    rw [h.deleted_nil]
    exact fun s hs => (List.not_mem_nil hs).elim
  have kept : stored.filter (fun _ => true) = (paired (changes byKey incoming stored)).map Prod.snd :=
    Matching.changes_kept (fun _ _ => rfl) dropped
  rw [← kept]
  exact List.filter_eq_self.mpr fun _ _ => rfl

theorem paired_content : ∀ p ∈ paired (changes byKey incoming stored), content p.1 = content p.2 := by
  intro p hp
  have pairs := (shared p.2.key incoming stored).paired
  rw [classOf_byKey, classOf_byKey] at pairs
  have here : p ∈ (paired (changes byKey incoming stored)).filter
      (fun q => alike byKey (keyed p.2.key) q.2) :=
    List.mem_filter.mpr ⟨hp, Matching.alike_iff.mpr (byKey_eq_iff.mpr rfl)⟩
  rw [pairs] at here
  exact zip_content (h.contents p.2.key) p here

theorem updated_eq : updated incoming stored = stored :=
  calc updated incoming stored
    _ = (paired (changes byKey incoming stored)).map Prod.snd :=
      List.map_congr_left fun p hp => refresh_same (h.paired_content p hp)
    _ = stored := h.paired_stored

/-- If nothing is added under a new id, settled attributes stay as they are. -/
theorem apply_eq (known : ids (inserted tenant fresh incoming stored) ⊆ ids stored) :
    (Batch.between tenant fresh incoming stored).apply stored = stored := by
  have kept : (Batch.between tenant fresh incoming stored).kept stored = stored :=
    (between_kept tenant fresh incoming h.identified.distinct).trans h.paired_stored
  rw [Batch.apply_eq, kept, between_saved, h.updated_eq, saveAll_append]
  -- The additions move nothing, so the updates find everything in its place and put it back.
  have same : ids (saveAll (inserted tenant fresh incoming stored) stored) = ids stored :=
    ids_saveAll_known known
  have distinct : (ids [] ++ ids (saveAll (inserted tenant fresh incoming stored) stored)).Nodup := by
    rw [same]
    exact h.identified.distinct
  have placed := saveAll_known [] [] same distinct
  rwa [List.nil_append, List.nil_append, List.append_nil, List.append_nil] at placed

end Settled

/-! ## What a replacement without ids leaves -/

theorem zipWith_content (xs ys : List Attribute) :
    (List.zipWith refresh xs ys).map content = (xs.take ys.length).map content := by
  induction ys generalizing xs with
  | nil => rw [List.zipWith_nil_right, List.length_nil, List.take_zero]
  | cons y ys ih =>
    cases xs with
    | nil => rfl
    | cons x xs => exact congrArg (content x :: ·) (ih xs)

section Bare

variable (bare : ∀ a ∈ incoming, a.id = none) (h : Store.Identified stored)
  (new : Fresh fresh incoming.length stored)
include bare h new

theorem left_content (key : String) :
    (under key ((Batch.between tenant fresh incoming stored).apply stored)).map content =
      (under key incoming).map content := by
  rw [between_apply tenant fresh incoming h (saved_distinct bare h new)]
  unfold under
  rw [List.filter_append, List.map_append]
  show (under key _).map content ++ (under key _).map content = (under key incoming).map content
  rw [under_updated, under_inserted, zipWith_content, ← List.map_append, List.take_append_drop]

theorem left_settled_of_bare :
    Settled incoming ((Batch.between tenant fresh incoming stored).apply stored) where
  identified := h.apply (between_known tenant fresh incoming h.known)
  contents key := ⟨[], (List.append_nil _).trans (left_content bare h new key)⟩

theorem nothing_added :
    added (changes byKey incoming ((Batch.between tenant fresh incoming stored).apply stored)) =
      [] := by
  refine eq_nil_of_under fun key => ?_
  have size : ((under key ((Batch.between tenant fresh incoming stored).apply stored)).map
      content).length = ((under key incoming).map content).length :=
    congrArg List.length (left_content bare h new key)
  rw [List.length_map, List.length_map] at size
  rw [under_added, size, List.drop_length]

end Bare

/-! ## What a replacement with distinct keys leaves -/

theorem stamp_id_of_some {a : Attribute} {i : Uuid} (named : a.id = some i) (new : Uuid) :
    (stamp tenant new a).id = some i := by
  unfold stamp
  rw [named]
  rfl

theorem stamp_id_of_none {a : Attribute} (unnamed : a.id = none) (new : Uuid) :
    (stamp tenant new a).id = some new := by
  unfold stamp
  rw [unnamed]
  rfl

theorem mem_stampAll (tenant : Uuid) (fresh : Nat → Uuid) (n : Nat) {l : List Attribute}
    {a : Attribute} (ha : a ∈ l) :
    ∃ m < n + l.length, stamp tenant (fresh m) a ∈ stampAll tenant fresh n l := by
  induction l generalizing n with
  | nil => cases ha
  | cons b l ih =>
    rw [List.length_cons]
    rcases List.mem_cons.mp ha with rfl | ha
    · exact ⟨n, by omega, List.mem_cons_self⟩
    · obtain ⟨m, hm, stamped⟩ := ih (if b.id.isSome then n else n + 1) ha
      refine ⟨m, ?_, List.mem_cons_of_mem _ stamped⟩
      split at hm <;> omega

theorem ids_stampAll (tenant : Uuid) (fresh : Nat → Uuid) (n : Nat) {l : List Attribute}
    (named : ∀ a ∈ l, a.id.isSome = true) : ids (stampAll tenant fresh n l) = ids l := by
  induction l generalizing n with
  | nil => rfl
  | cons a l ih =>
    obtain ⟨i, hi⟩ := Option.isSome_iff_exists.mp (named a List.mem_cons_self)
    have same : (stamp tenant (fresh n) a).id = a.id := (stamp_id_of_some hi _).trans hi.symm
    have rest := ih (if a.id.isSome then n else n + 1) fun b hb => named b (List.mem_cons_of_mem _ hb)
    exact congrArg₂ List.cons same rest

theorem made_once (h : Store.Identified stored)
    (new : Fresh fresh incoming.length (stored ++ incoming)) {n : Nat} (hn : n < incoming.length) :
    (ids (Batch.between tenant fresh incoming stored).saved).count (some (fresh n)) ≤ 1 := by
  have supplied : some (fresh n) ∉
      ((added (changes byKey incoming stored)).filterMap (·.id)).map some := by
    intro hid
    obtain ⟨i, hi, same⟩ := List.mem_map.mp hid
    obtain ⟨a, ha, named⟩ := List.mem_filterMap.mp hi
    exact new.unused n hn a (List.mem_append_right _ (added_subset a ha)) (named.trans same)
  have kept : some (fresh n) ∉ ids (updated incoming stored) := by
    rw [← between_same tenant fresh incoming h.distinct]
    intro hid
    obtain ⟨b, hb, same⟩ := List.mem_map.mp hid
    exact new.unused n hn b (List.mem_append_left _ (List.mem_filter.mp hb).1) same
  have made := new.nodup (unnamed_added incoming stored)
  have stamped := (stampAll_ids tenant fresh 0 (added (changes byKey incoming stored))).count_eq
    (some (fresh n))
  rw [List.count_append, List.count_eq_zero_of_not_mem supplied, ← List.range_eq_range'] at stamped
  rw [between_saved, ids_append, List.count_append, List.count_eq_zero_of_not_mem kept]
  have once := List.nodup_iff_count_le_one.mp made (some (fresh n))
  unfold inserted
  omega

theorem left_key_of_paired (h : Store.Identified stored) {a : Attribute}
    (ha : a ∈ (paired (changes byKey incoming stored)).map Prod.fst) :
    ∃ b ∈ (Batch.between tenant fresh incoming stored).apply stored, b.key = a.key := by
  obtain ⟨p, hp, rfl⟩ := List.mem_map.mp ha
  have distinct := updated_distinct incoming h.distinct
  have saved : refresh p.1 p.2 ∈ updated incoming stored := List.mem_map.mpr ⟨p, hp, rfl⟩
  rw [Batch.apply_eq, between_saved, saveAll_append]
  exact ⟨refresh p.1 p.2, mem_saveAll_of_distinct distinct saved, rfl⟩

/-- Every incoming attribute leaves its key, or at least the id that it came with. -/
theorem left_key_or_id (h : Store.Identified stored)
    (new : Fresh fresh incoming.length (stored ++ incoming)) {a : Attribute} (ha : a ∈ incoming) :
    (∃ b ∈ (Batch.between tenant fresh incoming stored).apply stored, b.key = a.key) ∨
      a.id.isSome = true ∧
        a.id ∈ ids ((Batch.between tenant fresh incoming stored).apply stored) := by
  have parts : a ∈ (paired (changes byKey incoming stored)).map Prod.fst ++
      added (changes byKey incoming stored) :=
    (Matching.changes_incoming incoming stored).symm.subset ha
  rcases List.mem_append.mp parts with pairs | ha
  · exact .inl (left_key_of_paired h pairs)
  · obtain ⟨n, hn, stamped⟩ := mem_stampAll tenant fresh 0 ha
    have saved : stamp tenant (fresh n) a ∈ (Batch.between tenant fresh incoming stored).saved := by
      rw [between_saved]
      exact List.mem_append_left _ stamped
    rw [Batch.apply_eq]
    cases hid : a.id with
    | some i =>
      have same : (stamp tenant (fresh n) a).id = some i := stamp_id_of_some hid _
      exact .inr ⟨rfl, mem_ids_saveAll.mpr (.inr (same ▸ mem_ids saved))⟩
    | none =>
      have made : (stamp tenant (fresh n) a).id = some (fresh n) := stamp_id_of_none hid _
      have size := added_length incoming stored
      have once : (ids (Batch.between tenant fresh incoming stored).saved).count (some (fresh n)) ≤
          1 := made_once h new (by omega)
      rw [← made] at once
      exact .inl ⟨_, mem_saveAll_of_once saved once, rfl⟩

section Keys

variable (keys : (incoming.map (·.key)).Nodup) (h : Store.Identified stored)
include keys h

theorem left_settled_of_keys :
    Settled incoming ((Batch.between tenant fresh incoming stored).apply stored) where
  identified := h.apply (between_known tenant fresh incoming h.known)
  contents key := by
    rcases under_of_distinct (between_apply_keys tenant fresh incoming h keys) key with
      none | ⟨b, one, rfl⟩
    · rw [none]
      exact List.nil_prefix
    · have left : b ∈ (Batch.between tenant fresh incoming stored).apply stored :=
        mem_under_key.mp (one ▸ List.mem_singleton.mpr rfl)
      have saved := between_subset tenant fresh incoming h left
      obtain ⟨a, ha, same⟩ := List.mem_map.mp
        ((between_content tenant fresh incoming stored).subset (List.mem_map_of_mem saved))
      have same_key : a.key = b.key := congrArg Prod.fst same
      have here : a ∈ under b.key incoming := same_key ▸ mem_under_key.mpr ha
      rcases under_of_distinct keys b.key with none | ⟨c, single, _⟩
      · rw [none] at here
        cases here
      · rw [single] at here
        obtain rfl := List.mem_singleton.mp here
        rw [one, single, List.map_singleton, List.map_singleton]
        exact ⟨[], congrArg (fun d => [d]) same.symm⟩

/-- What is added once more is what was lost, and it goes under ids that are there. -/
theorem added_again_known (new : Fresh fresh incoming.length (stored ++ incoming))
    (fresh' : Nat → Uuid) :
    ids (inserted tenant fresh' incoming
        ((Batch.between tenant fresh incoming stored).apply stored)) ⊆
      ids ((Batch.between tenant fresh incoming stored).apply stored) := by
  have lost : ∀ a ∈ added (changes byKey incoming
      ((Batch.between tenant fresh incoming stored).apply stored)),
      a.id.isSome = true ∧
        a.id ∈ ids ((Batch.between tenant fresh incoming stored).apply stored) := by
    intro a ha
    refine (left_key_or_id h new (added_subset a ha)).resolve_left ?_
    rintro ⟨b, hb, same⟩
    have here := mem_under_key.mpr ha
    rw [under_added] at here
    rcases under_of_distinct keys a.key with none | ⟨c, single, _⟩
    · rw [none, List.drop_nil] at here
      cases here
    · have present : b ∈ under a.key ((Batch.between tenant fresh incoming stored).apply stored) :=
        same ▸ mem_under_key.mpr hb
      have some_length := List.length_pos_of_mem present
      rw [single, List.drop_eq_nil_of_le some_length] at here
      cases here
  intro i hi
  unfold inserted at hi
  rw [ids_stampAll tenant fresh' 0 fun a ha => (lost a ha).1] at hi
  obtain ⟨a, ha, rfl⟩ := List.mem_map.mp hi
  exact (lost a ha).2

end Keys

/-! ## The replacement -/

theorem between_again (h : Store.Identified stored)
    (shape : (∀ a ∈ incoming, a.id = none) ∨ (incoming.map (·.key)).Nodup)
    (new : Fresh fresh incoming.length (stored ++ incoming)) (fresh' : Nat → Uuid) :
    (Batch.between tenant fresh' incoming
        ((Batch.between tenant fresh incoming stored).apply stored)).apply
          ((Batch.between tenant fresh incoming stored).apply stored) =
      (Batch.between tenant fresh incoming stored).apply stored := by
  rcases shape with bare | keys
  · have unused : Fresh fresh incoming.length stored :=
      ⟨new.distinct, fun i hi a ha => new.unused i hi a (List.mem_append_left _ ha)⟩
    refine (left_settled_of_bare bare h unused).apply_eq ?_
    unfold inserted
    rw [nothing_added bare h unused]
    exact List.nil_subset _
  · exact (left_settled_of_keys keys h).apply_eq (added_again_known keys h new fresh')

/-- A replacement by attributes without ids, or with distinct keys, succeeds a second time and leaves
every tenant's attributes as the first one did. -/
theorem sync_idempotent {s : Store} (reach : s.Reachable) (tenant : Uuid) {fresh fresh' : Nat → Uuid}
    {incoming : List Attribute}
    (shape : (∀ a ∈ incoming, a.id = none) ∨ (incoming.map (·.key)).Nodup)
    (new : Fresh fresh incoming.length (s.get tenant ++ incoming)) :
    ∃ saved s' saved' s'', s.sync fresh (some tenant) incoming = (.ok saved, s') ∧
      s'.sync fresh' (some tenant) incoming = (.ok saved', s'') ∧
      ∀ other, s''.get other = s'.get other := by
  have first := Store.sync_ok reach fresh tenant incoming
  have reach' := reach.synced fresh (some tenant) incoming
  rw [first] at reach'
  refine ⟨_, _, _, _, first, Store.sync_ok reach' fresh' tenant incoming, fun other => ?_⟩
  rw [Store.get_put]
  split
  · next here =>
    rw [here, Store.get_put, if_pos rfl]
    exact between_again (reach.identified tenant) shape new fresh'
  · rfl

/-- Two attributes that claim one id, of which only the second one stays. -/
def rivals : List Attribute := [⟨some ⟨1⟩, none, "a", "1"⟩, ⟨some ⟨1⟩, none, "b", "2"⟩]

theorem sync_rivals_again :
    ∃ saved s' saved' s'', Store.empty.sync supply (some owner) rivals = (.ok saved, s') ∧
      s'.sync supply (some owner) rivals = (.ok saved', s'') ∧
      ∀ other, s''.get other = s'.get other := by
  have keys : (rivals.map (·.key)).Nodup := by decide
  have new : Fresh supply rivals.length (Store.empty.get owner ++ rivals) := ⟨by decide, by decide⟩
  exact sync_idempotent .empty owner (.inr keys) new

end Tenancy.Attribute
