import Mathlib.Data.List.ReduceOption
import Tenancy.Proofs.Attribute.Reachable

/-!
# A batch as the update of a map

If no two attributes have the same id, a list of them is a map from ids. A batch takes the removed
ids out of the map and then overwrites it by what is saved, one after the other, so that the last
attribute that is saved under an id is the one that stays. What was there and is not removed keeps
its place, whether it is overwritten or not; an id that is not there, because it is new or was just
removed, goes to the end when it is saved for the first time.
-/

namespace Tenancy.Attribute

/-- The attribute under an id, if attributes are read as a map. -/
def withId? (i : Uuid) (l : List Attribute) : Option Attribute := l.find? fun a => a.id = some i

/-- What a batch leaves of stored attributes. -/
structure Batch.Updates (batch : Batch) (stored left : List Attribute) : Prop where
  /-- The map loses the removed ids and is then overwritten; the last one under an id wins. -/
  map : ∀ i, withId? i left = (batch.saved.findRev? fun a => a.id = some i).or
    (if some i ∈ ids batch.removed then none else withId? i stored)
  /-- What is kept stays in its order, and new ids follow as they first appear. -/
  order : ids left = ids (batch.kept stored) ++
    ((ids batch.saved).filter fun i => i ∉ ids (batch.kept stored)).eraseDups
  /-- No id occurs twice. -/
  distinct : (left.filterMap (·.id)).Nodup
  /-- Stored attributes without an id stay as they are, unless such a one is removed. -/
  bare : left.filter (·.id.isNone) = (batch.kept stored).filter (·.id.isNone)

variable {batch : Batch} {stored saved kept : List Attribute}

/-! ## One attribute -/

theorem withId?_save (a : Attribute) (l : List Attribute) (i : Uuid) :
    withId? i (save a l) = if a.id = some i then some a else withId? i l := by
  unfold withId?
  induction l with
  | nil => by_cases here : a.id = some i <;> simp [save, here]
  | cons b l ih =>
    by_cases same : b.id = a.id
    · -- The first attribute with the id is replaced, and it is the one that is read.
      rw [save, if_pos same]
      by_cases here : a.id = some i
      · simp [here]
      · simp [here, same]
    · rw [save, if_neg same]
      by_cases here : b.id = some i
      · have other : a.id ≠ some i := fun ha => same (here.trans ha.symm)
        simp [here, other]
      · simp [here, ih]

theorem filterMap_id (l : List Attribute) : l.filterMap (·.id) = (ids l).reduceOption := by
  unfold ids List.reduceOption
  rw [List.filterMap_map]
  rfl

theorem distinct_save {a : Attribute} {l : List Attribute} (h : (l.filterMap (·.id)).Nodup) :
    ((save a l).filterMap (·.id)).Nodup := by
  rw [filterMap_id] at h ⊢
  rw [ids_save]
  split
  · exact h
  · next new =>
    rw [List.reduceOption_append, List.reduceOption_singleton]
    cases ha : a.id with
    | none => rwa [Option.toList_none, List.append_nil]
    | some i =>
      rw [ha, ← List.reduceOption_mem_iff] at new
      rw [Option.toList_some, ← List.concat_eq_append]
      exact h.concat new

theorem bare_save {a : Attribute} (known : a.id.isSome = true) (l : List Attribute) :
    (save a l).filter (·.id.isNone) = l.filter (·.id.isNone) := by
  have named : a.id ≠ none := Option.isSome_iff_ne_none.mp known
  induction l with
  | nil => simp [save, named]
  | cons b l ih =>
    rw [save]
    split
    · next same => simp [same, named]
    · rw [List.filter_cons, List.filter_cons, ih]

/-! ## Several attributes -/

theorem withId?_saveAll (i : Uuid) (saved kept : List Attribute) :
    withId? i (saveAll saved kept) =
      (saved.findRev? fun a => a.id = some i).or (withId? i kept) := by
  induction saved generalizing kept with
  | nil => rfl
  | cons a saved ih =>
    show withId? i (saveAll saved (save a kept)) = _
    rw [ih, withId?_save, List.findRev?]
    cases later : saved.findRev? fun a => a.id = some i with
    | some b => rfl
    | none => by_cases here : a.id = some i <;> simp [here]

theorem distinct_saveAll (h : (kept.filterMap (·.id)).Nodup) :
    ((saveAll saved kept).filterMap (·.id)).Nodup := by
  induction saved generalizing kept with
  | nil => exact h
  | cons a saved ih => exact ih (distinct_save h)

theorem bare_saveAll (known : ∀ a ∈ saved, a.id.isSome = true) (kept : List Attribute) :
    (saveAll saved kept).filter (·.id.isNone) = kept.filter (·.id.isNone) := by
  induction saved generalizing kept with
  | nil => rfl
  | cons a saved ih =>
    have rest := ih (fun b hb => known b (List.mem_cons_of_mem _ hb)) (save a kept)
    exact rest.trans (bare_save (known a List.mem_cons_self) kept)

/-! ## The batch -/

theorem kept_eq (batch : Batch) (stored : List Attribute) :
    batch.kept stored = stored.filter fun a => a.id ∉ ids batch.removed := by
  refine List.filter_congr fun a _ => ?_
  rw [Bool.eq_iff_iff]
  simp [ids]

theorem withId?_kept (i : Uuid) (batch : Batch) (stored : List Attribute) :
    withId? i (batch.kept stored) =
      if some i ∈ ids batch.removed then none else withId? i stored := by
  rw [kept_eq]
  unfold withId?
  induction stored with
  | nil => split <;> rfl
  | cons a stored ih =>
    by_cases removed : a.id ∈ ids batch.removed
    · rw [List.filter_cons_of_neg (by simpa using removed), ih]
      split
      · rfl
      · next staying =>
        have other : a.id ≠ some i := fun same => staying (same ▸ removed)
        rw [List.find?_cons_of_neg (by simpa using other)]
    · rw [List.filter_cons_of_pos (by simpa using removed)]
      by_cases here : a.id = some i
      · rw [List.find?_cons_of_pos (by simpa using here),
          List.find?_cons_of_pos (by simpa using here), if_neg (here ▸ removed)]
      · rw [List.find?_cons_of_neg (by simpa using here),
          List.find?_cons_of_neg (by simpa using here), ih]

/-- A batch whose saved attributes have ids updates a tenant's attributes, and no others. -/
theorem Store.apply_updates (s : Store) (tenant : Uuid) (batch : Batch)
    (distinct : ((s.get tenant).filterMap (·.id)).Nodup)
    (known : ∀ a ∈ batch.saved, a.id.isSome = true) :
    ∃ s', s.apply tenant batch = .ok (s', batch.saved) ∧
      batch.Updates (s.get tenant) (s'.get tenant) ∧
      ∀ other, other ≠ tenant → s'.get other = s.get other := by
  refine ⟨_, Store.apply_of_known known, ?_, fun other apart => ?_⟩
  · rw [Store.get_put, if_pos rfl]
    exact {
      map := fun i => by rw [Batch.apply_eq, withId?_saveAll, withId?_kept]
      order := ids_saveAll _ _
      distinct := distinct_saveAll (distinct.sublist (List.filter_sublist.filterMap _))
      bare := bare_saveAll known _ }
  · rw [Store.get_put, if_neg apart]

/-- Three attributes, and a batch that removes one of them and saves it again, between two new ones
that have the same id. -/
def shelf : List Attribute :=
  [⟨some ⟨1⟩, none, "a", "1"⟩, ⟨some ⟨2⟩, none, "b", "2"⟩, ⟨some ⟨3⟩, none, "c", "3"⟩]

def restock : Batch where
  removed := [⟨some ⟨2⟩, none, "b", "2"⟩]
  saved := [⟨some ⟨4⟩, none, "d", "4"⟩, ⟨some ⟨2⟩, none, "b", "5"⟩, ⟨some ⟨4⟩, none, "d", "6"⟩,
    ⟨some ⟨1⟩, none, "a", "7"⟩]

theorem Store.apply_updates_restocked :
    (((Store.mk [(⟨9⟩, shelf)]).get ⟨9⟩).filterMap (·.id)).Nodup ∧
      (∀ a ∈ restock.saved, a.id.isSome = true) ∧
      ∃ s', (Store.mk [(⟨9⟩, shelf)]).apply ⟨9⟩ restock = .ok (s', restock.saved) ∧
        ids (s'.get ⟨9⟩) = [some ⟨1⟩, some ⟨3⟩, some ⟨4⟩, some ⟨2⟩] ∧
        withId? ⟨1⟩ (s'.get ⟨9⟩) = some ⟨some ⟨1⟩, none, "a", "7"⟩ ∧
        withId? ⟨4⟩ (s'.get ⟨9⟩) = some ⟨some ⟨4⟩, none, "d", "6"⟩ := by
  have distinct : (((Store.mk [(⟨9⟩, shelf)]).get ⟨9⟩).filterMap (·.id)).Nodup := by decide
  have known : ∀ a ∈ restock.saved, a.id.isSome = true := by decide
  obtain ⟨s', ran, updates, _⟩ :=
    Store.apply_updates (Store.mk [(⟨9⟩, shelf)]) ⟨9⟩ restock distinct known
  exact ⟨distinct, known, s', ran, updates.order.trans (by decide), updates.map ⟨1⟩, updates.map ⟨4⟩⟩

end Tenancy.Attribute
