import Tenancy.Proofs.Matching.Shares

/-!
# Nothing is lost, and nothing that fits is left over

Every element is handed on exactly once: an incoming one to an update or an addition, a stored one to
an update or a deletion. Only equal elements are paired, and of every class there are as many pairs
as there can be; so no element is added for which an equal one is deleted. The comparison may be any
total preorder, and both collections may hold equal elements.
-/

namespace Tenancy.Matching

variable {α : Type} {cmp : α → α → Ordering} {key : α} {incoming stored : List α}
  {cs : List (Change α)}

/-- How many elements of a class are paired, added and deleted. -/
structure Counted (cmp : α → α → Ordering) (key : α) (incoming stored : List α)
    (cs : List (Change α)) : Prop where
  paired : (paired cs).countP (fun p => alike cmp key p.1 && alike cmp key p.2) =
    min (incoming.countP (alike cmp key)) (stored.countP (alike cmp key))
  added : (added cs).countP (alike cmp key) = incoming.countP (alike cmp key) -
    min (incoming.countP (alike cmp key)) (stored.countP (alike cmp key))
  deleted : (deleted cs).countP (alike cmp key) = stored.countP (alike cmp key) -
    min (incoming.countP (alike cmp key)) (stored.countP (alike cmp key))

theorem countP_alike (key : α) (xs : List α) :
    xs.countP (alike cmp key) = (classOf cmp key xs).length := List.countP_eq_length_filter

/-- A class that is shared out pair by pair is shared out as far as it goes. -/
theorem Shared.counted (shared : Shared cmp key incoming stored cs)
    (same : ∀ p ∈ Matching.paired cs, alike cmp key p.1 = alike cmp key p.2) :
    Counted cmp key incoming stored cs := by
  refine ⟨?_, ?_, ?_⟩
  · have second : (Matching.paired cs).countP (fun p => alike cmp key p.1 && alike cmp key p.2) =
        (Matching.paired cs).countP (fun p => alike cmp key p.2) := by
      refine List.countP_congr fun p hp => ?_
      rw [same p hp, Bool.and_self]
    rw [second, List.countP_eq_length_filter, shared.paired, List.length_zip, countP_alike,
      countP_alike]
  · rw [countP_alike, shared.added, List.length_drop, countP_alike, countP_alike]
    omega
  · rw [countP_alike, shared.deleted, List.length_drop, countP_alike, countP_alike]
    omega

/-- Of two equal elements it is not so that one is added and the other one deleted. -/
theorem counted_apart [Std.TransCmp cmp] {i s : α} (counted : Counted cmp i incoming stored cs)
    (hi : i ∈ added cs) (hs : s ∈ deleted cs) : cmp i s ≠ .eq := by
  intro equal
  have more : 0 < (added cs).countP (alike cmp i) :=
    List.countP_pos_iff.mpr ⟨i, hi, alike_self i⟩
  have less : 0 < (deleted cs).countP (alike cmp i) :=
    List.countP_pos_iff.mpr ⟨s, hs, alike_iff.mpr (Std.OrientedCmp.eq_symm equal)⟩
  rw [counted.added] at more
  rw [counted.deleted] at less
  omega

/-- Every incoming element is paired or added and every stored one is paired or deleted, exactly
once; pairs are of equal elements; of each class there are as many pairs as there can be, and the
others are added and deleted, so that no added element is equal to a deleted one. -/
theorem changes_conserve (cmp : α → α → Ordering) [Std.TransCmp cmp] (incoming stored : List α) :
    ((paired (changes cmp incoming stored)).map Prod.fst ++
        added (changes cmp incoming stored)).Perm incoming ∧
      ((paired (changes cmp incoming stored)).map Prod.snd ++
        deleted (changes cmp incoming stored)).Perm stored ∧
      (∀ p ∈ paired (changes cmp incoming stored), cmp p.1 p.2 = .eq) ∧
      (∀ key, Counted cmp key incoming stored (changes cmp incoming stored)) ∧
      ∀ i ∈ added (changes cmp incoming stored), ∀ s ∈ deleted (changes cmp incoming stored),
        cmp i s ≠ .eq := by
  have equal : ∀ p ∈ paired (changes cmp incoming stored), cmp p.1 p.2 = .eq :=
    changes_alike incoming stored
  have counted (key : α) : Counted cmp key incoming stored (changes cmp incoming stored) :=
    (changes_shared key incoming stored).counted fun p hp =>
      alike_of_alike (alike_iff.mpr (equal p hp)) key
  exact ⟨changes_incoming incoming stored, changes_stored incoming stored, equal, counted,
    fun i hi s hs => counted_apart (counted i) hi hs⟩

/-- Three elements of a class meet two stored ones of it, and a stored one has no partner at all. -/
theorem changes_conserve_numbered :
    Std.TransCmp (compareOn (Prod.fst : Nat × Char → Nat)) ∧
      Counted (compareOn Prod.fst) (1, 'k') [(1, 'a'), (2, 'b'), (1, 'c'), (1, 'd')]
        [(3, 'x'), (1, 'y'), (1, 'z')]
        (changes (compareOn Prod.fst) [(1, 'a'), (2, 'b'), (1, 'c'), (1, 'd')]
          [(3, 'x'), (1, 'y'), (1, 'z')]) :=
  ⟨inferInstance, (changes_conserve (compareOn Prod.fst) _ _).2.2.2.1 (1, 'k')⟩

end Tenancy.Matching
