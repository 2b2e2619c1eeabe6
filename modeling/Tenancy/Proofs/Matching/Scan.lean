import Tenancy.Proofs.Matching.Emptying

/-!
# What the search finds, and that it stays there

The search by bisection and along a run finds what a plain search along the whole array finds. All
searches are done before the first element is handed out; each element that was found is still in
its slot when its turn comes, so whoever found one gets it.
-/

namespace Tenancy.Matching

variable {α : Type} {cmp : α → α → Ordering} {xs : Array α} {marks : Array Bool} {key : α}

/-- The plain search, slot by slot. -/
def scan (cmp : α → α → Ordering) (xs : Array α) (marks : Array Bool) (key : α) : Option Nat :=
  (xs.toList.zip marks.toList).findIdx? fun slot => alike cmp key slot.1 && !slot.2

/-- The slots that were found for the stored elements when the searches are done. -/
def recorded (cmp : α → α → Ordering) (incoming stored : List α) : List (α × Option Nat) :=
  (partners cmp (sorted cmp incoming) (Array.replicate (sorted cmp incoming).size false) stored).1

/-- The slots when it is the turn of the `n`-th stored element to take out what was found for it. -/
def slotsAt (cmp : α → α → Ordering) (incoming stored : List α) (n : Nat) : Array (Option α) :=
  slotsAfter ((sorted cmp incoming).map some) ((recorded cmp incoming stored).take n)

/-! ## The plain search -/

theorem Free.within {i : Nat} (free : Free cmp xs marks key i) : i < xs.size := by
  obtain ⟨x, hx, _⟩ := free
  exact (Array.getElem?_eq_some_iff.mp hx).1

theorem free_iff {i : Nat} (within : i < (xs.toList.zip marks.toList).length) :
    Free cmp xs marks key i ↔
      (alike cmp key (xs.toList.zip marks.toList)[i].1 &&
        !(xs.toList.zip marks.toList)[i].2) = true := by
  have both := within
  rw [List.length_zip, Array.length_toList, Array.length_toList, Nat.lt_min] at both
  obtain ⟨hx, hm⟩ := both
  rw [List.getElem_zip, Bool.and_eq_true, alike_iff, Bool.not_eq_true']
  constructor
  · rintro ⟨x, here, equal, open_⟩
    rw [Array.getElem?_eq_getElem hx] at here
    rw [Array.getElem?_eq_getElem hm] at open_
    cases here
    exact ⟨equal, by simpa using open_⟩
  · rintro ⟨equal, open_⟩
    refine ⟨xs[i], Array.getElem?_eq_getElem hx, equal, ?_⟩
    rw [Array.getElem?_eq_getElem hm]
    simpa using open_

theorem scan_eq_some_iff (size : marks.size = xs.size) {p : Nat} :
    scan cmp xs marks key = some p ↔
      Free cmp xs marks key p ∧ ∀ j < p, ¬ Free cmp xs marks key j := by
  have length : (xs.toList.zip marks.toList).length = xs.size := by
    rw [List.length_zip, Array.length_toList, Array.length_toList, size, Nat.min_self]
  unfold scan
  rw [List.findIdx?_eq_some_iff_getElem]
  constructor
  · rintro ⟨within, here, first⟩
    exact ⟨(free_iff within).mpr here, fun j hj free => first j hj ((free_iff _).mp free)⟩
  · rintro ⟨free, first⟩
    have within := free.within
    rw [← length] at within
    exact ⟨within, (free_iff within).mp free, fun j hj here => first j hj ((free_iff _).mpr here)⟩

/-- In a sorted array the search agrees with the plain one: it finds the first slot whose element is
equal to the key and that nobody has taken, and nothing if there is none. And whenever a search has
found a slot, the slot is full when the element is handed out from it, so the stored element is
updated and not deleted. -/
theorem first_free_kept (cmp : α → α → Ordering) [Std.TransCmp cmp] :
    (∀ (xs : Array α) (marks : Array Bool) (key : α), Ordered cmp xs.toList →
      marks.size = xs.size →
        freeSlot? cmp xs marks key = scan cmp xs marks key ∧
        (∀ p, freeSlot? cmp xs marks key = some p ↔
          p < xs.size ∧ Free cmp xs marks key p ∧ ∀ j < p, ¬ Free cmp xs marks key j) ∧
        (freeSlot? cmp xs marks key = none ↔ ∀ j, ¬ Free cmp xs marks key j)) ∧
    ∀ (incoming stored : List α) (n : Nat) (s : α) (p : Nat),
      (recorded cmp incoming stored)[n]? = some (s, some p) →
        ∃ x, (slotsAt cmp incoming stored n)[p]? = some (some x) ∧ cmp x s = .eq ∧
          (changes cmp incoming stored)[n]? = some (.update x s) := by
  refine ⟨fun xs marks key ordered size => ⟨?_, fun p => ?_, freeSlot_eq_none_iff ordered⟩,
    fun incoming stored n s p found => ?_⟩
  · exact Option.ext fun p => (freeSlot_eq_some_iff ordered).trans (scan_eq_some_iff size).symm
  · rw [freeSlot_eq_some_iff ordered]
    exact ⟨fun h => ⟨h.1.within, h⟩, fun h => h.2⟩
  · obtain ⟨x, full, equal⟩ := found_full Array.size_replicate found
    rw [emptied_fresh] at full
    refine ⟨x, full, equal, ?_⟩
    have settled : (changes cmp incoming stored)[n]? =
        some (settle (slotsAt cmp incoming stored n) (s, some p)).1 := handOut_getElem? found
    have here : (slotsAt cmp incoming stored n)[p]? = some (some x) := full
    rw [settled, settle, here]
    rfl

/-- Elements in order, two of them of one class. -/
def numbered : List (Nat × Char) := [(1, 'a'), (1, 'c'), (2, 'b')]

/-- The first of the class is taken, once by a mark that is given, and once by a stored element that
comes before, with one between them that finds nothing. -/
theorem first_free_kept_numbered :
    Std.TransCmp (compareOn (Prod.fst : Nat × Char → Nat)) ∧
      Ordered (compareOn Prod.fst) numbered ∧
      freeSlot? (compareOn Prod.fst) numbered.toArray #[true, false, false] (1, 'z') = some 1 ∧
      (recorded (compareOn Prod.fst) numbered [(1, 'x'), (3, 'y'), (1, 'z')])[2]? =
        some ((1, 'z'), some 1) ∧
      ∃ x, (slotsAt (compareOn Prod.fst) numbered [(1, 'x'), (3, 'y'), (1, 'z')] 2)[1]? =
          some (some x) ∧
        (changes (compareOn Prod.fst) numbered [(1, 'x'), (3, 'y'), (1, 'z')])[2]? =
          some (.update x (1, 'z')) := by
  have ordered : Ordered (compareOn Prod.fst) numbered := by
    unfold Ordered
    decide
  have found : (recorded (compareOn Prod.fst) numbered [(1, 'x'), (3, 'y'), (1, 'z')])[2]? =
      some ((1, 'z'), some 1) := by
    have still : sorted (compareOn Prod.fst) numbered = numbered.toArray :=
      congrArg List.toArray (List.mergeSort_of_pairwise ordered)
    unfold recorded
    rw [still]
    decide +kernel
  obtain ⟨searches, kept⟩ := first_free_kept (compareOn (Prod.fst : Nat × Char → Nat))
  obtain ⟨_, first, _⟩ := searches numbered.toArray #[true, false, false] (1, 'z') ordered rfl
  obtain ⟨x, full, _, updated⟩ := kept _ _ 2 (1, 'z') 1 found
  refine ⟨inferInstance, ordered, (first 1).mpr ⟨by decide, ?_, ?_⟩, found, x, full, updated⟩
  · exact ⟨(1, 'c'), rfl, rfl, by decide⟩
  · rintro j before ⟨_, _, _, free⟩
    obtain rfl : j = 0 := by omega
    exact free rfl

end Tenancy.Matching
