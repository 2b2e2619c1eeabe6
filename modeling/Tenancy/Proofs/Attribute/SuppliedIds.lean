import Tenancy.Proofs.Attribute.Identity

/-!
# Ids that come in with attributes

An incoming attribute that finds no partner is stored under the id that it comes with. Such an id may
be that of another incoming attribute, or of a stored one that stays; then one of the two overwrites
the other, though both are returned. A replacement does what it says exactly if no id is claimed
twice.
-/

namespace Tenancy.Attribute

open Matching (alike paired added changes)

/-- The incoming attributes under whose keys nothing is stored. -/
def newcomers (incoming stored : List Attribute) : List Attribute :=
  incoming.filter fun a => (under a.key stored).isEmpty

/-- The first of the stored attributes under each incoming key. -/
def survivors (incoming stored : List Attribute) : List Attribute :=
  incoming.filterMap fun a => (under a.key stored).head?

/-- The ids that attributes are to be stored under: those that newcomers come with, those that are
made for the others, and those of the survivors. -/
def claimed (fresh : Nat → Uuid) (incoming stored : List Attribute) : List (Option Uuid) :=
  ((newcomers incoming stored).filterMap (·.id)).map some ++
    (List.range (unnamed (newcomers incoming stored))).map (fun n => some (fresh n)) ++
    ids (survivors incoming stored)

variable {incoming stored : List Attribute}

theorem perm_of_under {xs ys : List Attribute} (same : ∀ key, under key xs = under key ys) :
    xs.Perm ys := by
  have sorted : Matching.stable byKey xs = Matching.stable byKey ys := by
    refine Matching.eq_of_classes (Matching.stable_ordered _) (Matching.stable_ordered _) fun k => ?_
    rw [Matching.classOf_stable, Matching.classOf_stable, classOf_byKey, classOf_byKey, same]
  have first : (Matching.stable byKey xs).Perm xs := List.mergeSort_perm _ _
  rw [sorted] at first
  exact first.symm.trans (List.mergeSort_perm _ _)

theorem under_key {key : String} {a : Attribute} {l : List Attribute} (h : a ∈ under key l) :
    a.key = key := of_decide_eq_true (List.mem_filter.mp h).2

/-- If keys are distinct there is at most one attribute under each. -/
theorem under_of_distinct (keys : (incoming.map (·.key)).Nodup) (key : String) :
    under key incoming = [] ∨ ∃ a, under key incoming = [a] ∧ a.key = key := by
  have distinct : ((under key incoming).map (·.key)).Nodup :=
    keys.sublist (List.filter_sublist.map _)
  cases h : under key incoming with
  | nil => exact .inl rfl
  | cons a rest =>
    have ha : a.key = key := under_key (h ▸ List.mem_cons_self)
    cases rest with
    | nil => exact .inr ⟨a, rfl, ha⟩
    | cons b rest =>
      have hb : b.key = key := under_key (h ▸ List.mem_cons_of_mem _ List.mem_cons_self)
      rw [h, List.map_cons, List.map_cons, ha, hb] at distinct
      exact absurd List.mem_cons_self (List.nodup_cons.mp distinct).1

theorem under_newcomers (keys : (incoming.map (·.key)).Nodup) (key : String) :
    under key (newcomers incoming stored) = (under key incoming).drop (under key stored).length := by
  have exchanged : under key (newcomers incoming stored) =
      (under key incoming).filter fun a => (under a.key stored).isEmpty := List.filter_comm _ _ _
  rw [exchanged]
  rcases under_of_distinct keys key with none | ⟨a, one, ha⟩
  · rw [none]
    exact List.drop_nil.symm
  · rw [one]
    cases h : under key stored with
    | nil => simp [ha, h]
    | cons b rest => simp [ha, h]

theorem under_filterMap {f : Attribute → Option Attribute}
    (keeps : ∀ a b, f a = some b → b.key = a.key) (key : String) (l : List Attribute) :
    under key (l.filterMap f) = (under key l).filterMap f := by
  induction l with
  | nil => rfl
  | cons a l ih =>
    by_cases ha : a.key = key
    · have here : under key (a :: l) = a :: under key l := List.filter_cons_of_pos (by simp [ha])
      rw [here]
      cases hf : f a with
      | none => rw [List.filterMap_cons_none hf, List.filterMap_cons_none hf, ih]
      | some b =>
        have hb : b.key = key := (keeps a b hf).trans ha
        rw [List.filterMap_cons_some hf, List.filterMap_cons_some hf, ← ih]
        exact List.filter_cons_of_pos (by simp [hb])
    · have here : under key (a :: l) = under key l := List.filter_cons_of_neg (by simp [ha])
      rw [here, ← ih]
      cases hf : f a with
      | none => rw [List.filterMap_cons_none hf]
      | some b =>
        have hb : b.key ≠ key := fun hb => ha ((keeps a b hf).symm.trans hb)
        rw [List.filterMap_cons_some hf]
        exact List.filter_cons_of_neg (by simp [hb])

theorem under_survivors (keys : (incoming.map (·.key)).Nodup) (key : String) :
    under key (survivors incoming stored) = (under key stored).take (under key incoming).length := by
  unfold survivors
  rw [under_filterMap fun a b hb => under_key (List.mem_of_head? hb)]
  rcases under_of_distinct keys key with none | ⟨a, one, ha⟩
  · rw [none]
    rfl
  · rw [one]
    cases h : under key stored with
    | nil => simp [ha, h]
    | cons b rest => simp [ha, h]

/-! ## What is claimed is what is saved -/

theorem added_newcomers (keys : (incoming.map (·.key)).Nodup) :
    (added (changes byKey incoming stored)).Perm (newcomers incoming stored) := by
  refine perm_of_under fun key => ?_
  have adds := (shared key incoming stored).added
  rw [classOf_byKey, classOf_byKey, classOf_byKey] at adds
  rw [under_newcomers keys]
  exact adds

theorem paired_survivors (keys : (incoming.map (·.key)).Nodup) :
    ((paired (changes byKey incoming stored)).map Prod.snd).Perm (survivors incoming stored) := by
  refine perm_of_under fun key => ?_
  have pairs := (shared key incoming stored).paired
  rw [classOf_byKey, classOf_byKey] at pairs
  have chosen : under key ((paired (changes byKey incoming stored)).map Prod.snd) =
      ((paired (changes byKey incoming stored)).filter
        fun p => alike byKey (keyed key) p.2).map Prod.snd := by
    unfold under
    rw [List.filter_map]
    refine congrArg (List.map Prod.snd) (List.filter_congr fun p _ => ?_)
    rw [Bool.eq_iff_iff, Matching.alike_iff, byKey_eq_iff]
    exact decide_eq_true_iff
  rw [chosen, pairs, under_survivors keys]
  show ((under key incoming).zip (under key stored)).map Prod.snd = _
  rcases under_of_distinct keys key with none | ⟨a, one, _⟩
  · rw [none]
    rfl
  · rw [one]
    cases under key stored <;> rfl

/-- The ids under which attributes are saved are those that are claimed. -/
theorem saved_claimed (keys : (incoming.map (·.key)).Nodup) (distinct : (ids stored).Nodup)
    (tenant : Uuid) (fresh : Nat → Uuid) :
    (ids (Batch.between tenant fresh incoming stored).saved).Perm (claimed fresh incoming stored) := by
  have perm : (added (changes byKey incoming stored)).Perm (newcomers incoming stored) :=
    added_newcomers keys
  have lacking : unnamed (added (changes byKey incoming stored)) =
      unnamed (newcomers incoming stored) := (perm.filter _).length_eq
  rw [between_saved, ids_append, ← between_same tenant fresh incoming distinct,
    between_kept tenant fresh incoming distinct]
  unfold claimed
  refine List.Perm.append ?_ ((paired_survivors keys).map _)
  have stamped := stampAll_ids tenant fresh 0 (added (changes byKey incoming stored))
  rw [lacking, ← List.range_eq_range'] at stamped
  exact stamped.trans (((perm.filterMap _).map some).append_right _)

/-- Under distinct keys, a replacement leaves the incoming contents, and returns what it leaves, if
and only if no id is claimed twice. -/
theorem sync_supplied_ids {s : Store} (reach : s.Reachable) (tenant : Uuid) (fresh : Nat → Uuid)
    {incoming : List Attribute} (keys : (incoming.map (·.key)).Nodup) :
    ∃ saved s', s.sync fresh (some tenant) incoming = (.ok saved, s') ∧
      (((s'.get tenant).map content).Perm (incoming.map content) ↔
        (claimed fresh incoming (s.get tenant)).Nodup) ∧
      (saved.Perm (s'.get tenant) ↔ (claimed fresh incoming (s.get tenant)).Nodup) := by
  have h := reach.identified tenant
  have same := (saved_claimed keys h.distinct tenant fresh).nodup_iff
  refine ⟨_, _, Store.sync_ok reach fresh tenant incoming, ?_⟩
  rw [Store.get_put, if_pos rfl, ← same]
  exact ⟨between_content_iff tenant fresh incoming h, between_saved_iff tenant fresh incoming h⟩

/-- A newcomer that brings an id of its own is stored beside the survivor. -/
theorem sync_own_id :
    ∃ saved s', (Store.mk [(owner, twoColours)]).sync supply (some owner)
        [⟨some ⟨3⟩, none, "size", "L"⟩, ⟨none, none, "colour", "blue"⟩] = (.ok saved, s') ∧
      ((s'.get owner).map content).Perm [("size", "L"), ("colour", "blue")] ∧
      saved.Perm (s'.get owner) := by
  have keys : (([⟨some ⟨3⟩, none, "size", "L"⟩, ⟨none, none, "colour", "blue"⟩] :
      List Attribute).map (·.key)).Nodup := by decide
  obtain ⟨saved, s', ran, contents, returned⟩ :=
    sync_supplied_ids twoColours_reachable owner supply keys
  exact ⟨saved, s', ran, contents.mpr (by decide), returned.mpr (by decide)⟩

/-- Ids that come in can meet, and then an attribute is lost that is returned all the same. -/
theorem sync_not_always_kept :
    ¬ ∀ (s : Store) (tenant : Uuid) (fresh : Nat → Uuid) (incoming saved : List Attribute)
      (s' : Store), s.Reachable → (incoming.map (·.key)).Nodup →
      Fresh fresh incoming.length (s.get tenant) →
      s.sync fresh (some tenant) incoming = (.ok saved, s') →
      ((s'.get tenant).map content).Perm (incoming.map content) ∧ saved.Perm (s'.get tenant) := by
  intro kept
  let meeting : List Attribute := [⟨some ⟨1⟩, none, "a", "1"⟩, ⟨some ⟨1⟩, none, "b", "2"⟩]
  have keys : (meeting.map (·.key)).Nodup := by decide
  have nothing : Store.Identified ([] : List Attribute) := Store.Reachable.empty.identified owner
  obtain ⟨contents, _⟩ := kept .empty owner supply meeting _ _ .empty keys
    ⟨by decide, by decide⟩ (Store.sync_ok .empty supply owner meeting)
  rw [Store.get_put, if_pos rfl] at contents
  have distinct := (between_content_iff owner supply meeting nothing).mp contents
  have claims : (claimed supply meeting []).Nodup :=
    (saved_claimed keys nothing.distinct owner supply).nodup_iff.mp distinct
  exact absurd claims (by decide)

end Tenancy.Attribute
