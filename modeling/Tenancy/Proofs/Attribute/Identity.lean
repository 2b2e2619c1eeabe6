import Tenancy.Proofs.Attribute.Between

/-!
# Which attributes keep their identity

When attributes come in without ids, a replacement leaves exactly the incoming contents. Under each
key the stored attributes keep their ids from the front, as many as there are incoming ones, and
take their values in order; the others are gone, and what is left of the incoming ones is stored
under new ids.
-/

namespace Tenancy.Attribute

open Matching (alike paired added deleted changes)

/-- New ids that are distinct, and that none of the stored attributes has. -/
structure Fresh (fresh : Nat → Uuid) (count : Nat) (stored : List Attribute) : Prop where
  distinct : ∀ i < count, ∀ j < count, fresh i = fresh j → i = j
  unused : ∀ i < count, ∀ a ∈ stored, a.id ≠ some (fresh i)

/-- Some attribute with a key. -/
def keyed (key : String) : Attribute := ⟨none, none, key, ""⟩

variable {tenant : Uuid} {fresh : Nat → Uuid} {incoming stored : List Attribute}

theorem shared (key : String) (incoming stored : List Attribute) :
    Matching.Shared byKey (keyed key) incoming stored (changes byKey incoming stored) :=
  Matching.changes_shared (keyed key) incoming stored

/-! ## Under one key -/

theorem under_updated (key : String) (incoming stored : List Attribute) :
    under key (updated incoming stored) =
      List.zipWith refresh (under key incoming) (under key stored) := by
  have pairs := (shared key incoming stored).paired
  rw [classOf_byKey, classOf_byKey] at pairs
  have same : (paired (changes byKey incoming stored)).filter (fun p => alike byKey (keyed key) p.2) =
      (paired (changes byKey incoming stored)).filter fun p => (refresh p.1 p.2).key = key := by
    refine List.filter_congr fun p hp => ?_
    have equal : p.1.key = p.2.key :=
      byKey_eq_iff.mp (Matching.changes_alike incoming stored p hp)
    rw [Bool.eq_iff_iff, Matching.alike_iff, byKey_eq_iff, decide_eq_true_iff]
    exact Eq.congr_left equal.symm
  unfold under updated
  rw [List.filter_map]
  show List.map _ ((paired (changes byKey incoming stored)).filter
    fun p => (refresh p.1 p.2).key = key) = _
  rw [← same, pairs, List.zip, List.map_zipWith]
  rfl

theorem under_stampAll (key : String) (n : Nat) (l : List Attribute) :
    (under key (stampAll tenant fresh n l)).map content = (under key l).map content := by
  have through (l : List Attribute) : (under key l).map content =
      (l.map content).filter fun c => c.1 = key := by
    rw [List.filter_map]
    rfl
  rw [through, through, stampAll_content]

/-- The incoming attributes of a key beyond those that find partners are added. -/
theorem under_added (key : String) (incoming stored : List Attribute) :
    under key (added (changes byKey incoming stored)) =
      (under key incoming).drop (under key stored).length := by
  have adds := (shared key incoming stored).added
  rwa [classOf_byKey, classOf_byKey, classOf_byKey] at adds

/-- The stored attributes of a key beyond those that find partners are deleted. -/
theorem under_deleted (key : String) (incoming stored : List Attribute) :
    under key (deleted (changes byKey incoming stored)) =
      (under key stored).drop (under key incoming).length := by
  have deletes := (shared key incoming stored).deleted
  rwa [classOf_byKey, classOf_byKey, classOf_byKey] at deletes

theorem under_inserted (key : String) :
    (under key (inserted tenant fresh incoming stored)).map content =
      ((under key incoming).drop (under key stored).length).map content := by
  unfold inserted
  rw [under_stampAll, under_added]

theorem dropped_deleted {key : String} {b : Attribute}
    (hb : b ∈ (under key stored).drop (under key incoming).length) :
    b ∈ deleted (changes byKey incoming stored) := by
  rw [← under_deleted] at hb
  exact (List.mem_filter.mp hb).1

/-! ## New ids -/

theorem Fresh.nodup {n m : Nat} (new : Fresh fresh n stored) (h : m ≤ n) :
    ((List.range m).map fun i => some (fresh i)).Nodup := by
  refine List.Nodup.map_on (fun i hi j hj same => ?_) List.nodup_range
  rw [List.mem_range] at hi hj
  exact new.distinct i (by omega) j (by omega) (Option.some.inj same)

theorem added_subset : ∀ a ∈ added (changes byKey incoming stored), a ∈ incoming :=
  fun _ ha => (Matching.changes_incoming incoming stored).subset (List.mem_append_right _ ha)

theorem added_length (incoming stored : List Attribute) :
    (added (changes byKey incoming stored)).length ≤ incoming.length := by
  have size : ((paired (changes byKey incoming stored)).map Prod.fst ++
      added (changes byKey incoming stored)).length = incoming.length :=
    (Matching.changes_incoming incoming stored).length_eq
  rw [List.length_append] at size
  omega

theorem unnamed_added (incoming stored : List Attribute) :
    unnamed (added (changes byKey incoming stored)) ≤ incoming.length :=
  Nat.le_trans (List.length_filter_le _ _) (added_length incoming stored)

theorem inserted_ids (bare : ∀ a ∈ incoming, a.id = none) :
    (ids (inserted tenant fresh incoming stored)).Perm
      ((List.range (unnamed (added (changes byKey incoming stored)))).map fun i => some (fresh i)) := by
  have nothing : (added (changes byKey incoming stored)).filterMap (·.id) = [] :=
    List.filterMap_eq_nil_iff.mpr fun a ha => bare a (added_subset a ha)
  have stamped := stampAll_ids tenant fresh 0 (added (changes byKey incoming stored))
  rw [nothing, List.map_nil, List.nil_append, ← List.range_eq_range'] at stamped
  exact stamped

theorem inserted_fresh (bare : ∀ a ∈ incoming, a.id = none) :
    ∀ a ∈ inserted tenant fresh incoming stored,
      a.tenantId = some tenant ∧ ∃ n < incoming.length, a.id = some (fresh n) := by
  intro a ha
  refine ⟨(stampAll_known tenant fresh 0 _ a ha).2, ?_⟩
  obtain ⟨n, hn, same⟩ := List.mem_map.mp ((inserted_ids bare).subset (mem_ids ha))
  exact ⟨n, Nat.lt_of_lt_of_le (List.mem_range.mp hn) (unnamed_added incoming stored), same.symm⟩

theorem saved_distinct (bare : ∀ a ∈ incoming, a.id = none) (h : Store.Identified stored)
    (new : Fresh fresh incoming.length stored) :
    (ids (Batch.between tenant fresh incoming stored).saved).Nodup := by
  rw [between_saved, ids_append]
  refine List.Nodup.append ?_ (updated_distinct incoming h.distinct) ?_
  · exact (inserted_ids bare).nodup_iff.mpr (new.nodup (unnamed_added incoming stored))
  · intro i hi hi'
    obtain ⟨a, ha, rfl⟩ := List.mem_map.mp hi
    obtain ⟨_, n, hn, same⟩ := inserted_fresh bare a ha
    rw [← between_same tenant fresh incoming h.distinct] at hi'
    obtain ⟨b, hb, hid⟩ := List.mem_map.mp hi'
    exact new.unused n hn b (List.mem_filter.mp hb).1 (hid.trans same)

/-! ## The replacement -/

/-- A stored attribute beyond those that find partners has an id that is not left anywhere. -/
theorem dropped_gone {key : String} (h : Store.Identified stored)
    (new : Fresh fresh incoming.length stored) (bare : ∀ a ∈ incoming, a.id = none) {b : Attribute}
    (hb : b ∈ (under key stored).drop (under key incoming).length) :
    ∀ a ∈ updated incoming stored ++ inserted tenant fresh incoming stored, a.id ≠ b.id := by
  have dropped := dropped_deleted hb
  intro a ha same
  rcases List.mem_append.mp ha with ha | ha
  · obtain ⟨p, hp, rfl⟩ := List.mem_map.mp ha
    exact paired_apart incoming h.distinct p hp b dropped same.symm
  · obtain ⟨_, n, hn, generated⟩ := inserted_fresh bare a ha
    have stored_too : b ∈ stored :=
      (Matching.changes_stored incoming stored).subset (List.mem_append_right _ dropped)
    exact new.unused n hn b stored_too (same.symm.trans generated)

/-- A replacement by attributes without ids leaves exactly their contents, and returns what it
leaves. Under each key the stored attributes keep their identity from the front and take the incoming
values in order; the rest of them is gone, and the rest of the incoming ones is new. -/
theorem sync_without_ids {s : Store} (reach : s.Reachable) (tenant : Uuid) {fresh : Nat → Uuid}
    {incoming : List Attribute} (bare : ∀ a ∈ incoming, a.id = none)
    (new : Fresh fresh incoming.length (s.get tenant)) :
    ∃ saved s', s.sync fresh (some tenant) incoming = (.ok saved, s') ∧
      ((s'.get tenant).map content).Perm (incoming.map content) ∧
      saved.Perm (s'.get tenant) ∧
      ∀ key, ∃ added,
        under key (s'.get tenant) =
          List.zipWith refresh (under key incoming) (under key (s.get tenant)) ++ added ∧
        added.map content =
          ((under key incoming).drop (under key (s.get tenant)).length).map content ∧
        (∀ a ∈ added, a.tenantId = some tenant ∧ ∃ n < incoming.length, a.id = some (fresh n)) ∧
        ∀ b ∈ (under key (s.get tenant)).drop (under key incoming).length,
          ∀ a ∈ s'.get tenant, a.id ≠ b.id := by
  have h := reach.identified tenant
  have distinct : (ids (Batch.between tenant fresh incoming (s.get tenant)).saved).Nodup :=
    saved_distinct bare h new
  refine ⟨_, _, Store.sync_ok reach fresh tenant incoming, ?_⟩
  rw [Store.get_put, if_pos rfl]
  refine ⟨(between_content_iff tenant fresh incoming h).mpr distinct,
    (between_saved_iff tenant fresh incoming h).mpr distinct, fun key => ?_⟩
  rw [between_apply tenant fresh incoming h distinct]
  refine ⟨under key (inserted tenant fresh incoming (s.get tenant)), ?_, under_inserted key, ?_, ?_⟩
  · rw [← under_updated]
    exact List.filter_append _ _
  · exact fun a ha => inserted_fresh bare a (List.mem_filter.mp ha).1
  · exact fun b hb => dropped_gone h new bare hb

/-- A tenant, its two attributes of one key, and a supply of ids. -/
def owner : Uuid := ⟨7⟩

def twoColours : List Attribute :=
  [⟨some ⟨1⟩, some owner, "colour", "red"⟩, ⟨some ⟨2⟩, some owner, "colour", "green"⟩]

def supply (n : Nat) : Uuid := ⟨BitVec.ofNat 128 (10 + n)⟩

theorem twoColours_reachable : (Store.mk [(owner, twoColours)]).Reachable := by
  have saved : Store.empty.apply owner ⟨[], twoColours⟩ =
      .ok (Store.mk [(owner, twoColours)], twoColours) := rfl
  exact .applied .empty saved

theorem sync_one_colour :
    ∃ saved s', (Store.mk [(owner, twoColours)]).sync supply (some owner)
        [⟨none, none, "size", "L"⟩, ⟨none, none, "colour", "blue"⟩] = (.ok saved, s') ∧
      ((s'.get owner).map content).Perm [("size", "L"), ("colour", "blue")] ∧
      under "colour" (s'.get owner) = [⟨some ⟨1⟩, some owner, "colour", "blue"⟩] := by
  have bare : ∀ a ∈ ([⟨none, none, "size", "L"⟩, ⟨none, none, "colour", "blue"⟩] : List Attribute),
      a.id = none := by decide
  have new : Fresh supply 2 twoColours := ⟨by decide, by decide⟩
  obtain ⟨saved, s', ran, contents, _, keys⟩ :=
    sync_without_ids twoColours_reachable owner bare new
  obtain ⟨rest, whole, left, _⟩ := keys "colour"
  have nothing : rest = [] := List.map_eq_nil_iff.mp left
  rw [nothing] at whole
  exact ⟨saved, s', ran, contents, whole⟩

end Tenancy.Attribute
