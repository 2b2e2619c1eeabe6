import Tenancy.Proofs.Matching.Slot

/-!
# Slots are emptied as they were marked

All slots are found before the first element is handed out, so a slot might have been emptied when
its turn comes. It never is: the search passes over marked slots, and the slots are emptied in the
order in which they were marked. So the slots that are empty when an element is handed out are those
that were marked when its slot was found.
-/

namespace Tenancy.Matching

variable {α : Type} {cmp : α → α → Ordering} {xs : Array α} {marks : Array Bool}

/-- The slots, of which those that are marked are empty. -/
def emptied (xs : Array α) (marks : Array Bool) : Array (Option α) :=
  xs.mapIdx fun i x => if marks[i]? = some true then none else some x

/-- The marks after a search. -/
def marked (marks : Array Bool) : Option Nat → Array Bool
  | some i => marks.setIfInBounds i true
  | none => marks

/-- The slots after so many elements were handed out. -/
def slotsAfter (slots : Array (Option α)) (found : List (α × Option Nat)) : Array (Option α) :=
  found.foldl (fun left f => (settle left f).2) slots

theorem emptied_getElem? (i : Nat) :
    (emptied xs marks)[i]? = xs[i]?.map fun x => if marks[i]? = some true then none else some x :=
  Array.getElem?_mapIdx

theorem emptied_fresh (xs : Array α) :
    emptied xs (Array.replicate xs.size false) = xs.map some := by
  apply Array.ext_getElem?
  intro i
  have unmarked : (Array.replicate xs.size false)[i]? ≠ some true := by
    rw [Array.getElem?_replicate]
    split <;> simp
  rw [emptied_getElem?, Array.getElem?_map]
  simp only [if_neg unmarked]

theorem size_marked (marks : Array Bool) (found : Option Nat) :
    (marked marks found).size = marks.size := by
  cases found with
  | none => rfl
  | some i => exact Array.size_setIfInBounds

theorem emptied_marked {i : Nat} (within : i < marks.size) :
    emptied xs (marked marks (some i)) = (emptied xs marks).setIfInBounds i none := by
  apply Array.ext_getElem?
  intro j
  rw [emptied_getElem?, Array.getElem?_setIfInBounds, marked, Array.getElem?_setIfInBounds]
  by_cases same : i = j
  · subst same
    rw [if_pos rfl, if_pos rfl, if_pos within]
    by_cases there : i < xs.size
    · simp [emptied, there]
    · simp [emptied, there]
  · rw [if_neg same, if_neg same, emptied_getElem?]

/-- A slot that is found is full, and it is the one that is emptied. -/
theorem settle_found (size : marks.size = xs.size) {s : α} {i : Nat}
    (h : freeSlot? cmp xs marks s = some i) :
    ∃ x, xs[i]? = some x ∧ cmp x s = .eq ∧ (emptied xs marks)[i]? = some (some x) ∧
      settle (emptied xs marks) (s, some i) = (.update x s, emptied xs (marked marks (some i))) := by
  obtain ⟨_, ⟨x, hx, equal, free⟩, _⟩ := freeInRun_some h
  have within : i < marks.size := by
    rw [size]
    exact (Array.getElem?_eq_some_iff.mp hx).1
  have full : (emptied xs marks)[i]? = some (some x) := by
    rw [emptied_getElem?, hx, Option.map_some, if_neg free]
  refine ⟨x, hx, equal, full, ?_⟩
  rw [emptied_marked within, settle, full]
  rfl

theorem settle_slots (size : marks.size = xs.size) (s : α) :
    (settle (emptied xs marks) (s, freeSlot? cmp xs marks s)).2 =
      emptied xs (marked marks (freeSlot? cmp xs marks s)) := by
  cases h : freeSlot? cmp xs marks s with
  | none => rfl
  | some i =>
    obtain ⟨x, _, _, _, settled⟩ := settle_found size h
    rw [settled]

theorem partners_cons (xs : Array α) (marks : Array Bool) (s : α) (rest : List α) :
    (partners cmp xs marks (s :: rest)).1 = (s, freeSlot? cmp xs marks s) ::
      (partners cmp xs (marked marks (freeSlot? cmp xs marks s)) rest).1 := by
  cases h : freeSlot? cmp xs marks s with
  | none => simp only [partners, h, marked]
  | some i => simp only [partners, h, marked]

/-- Whenever an element is handed out, it is still in the slot that was found. -/
theorem found_full (size : marks.size = xs.size) {stored : List α} {n : Nat} {s : α} {i : Nat}
    (h : (partners cmp xs marks stored).1[n]? = some (s, some i)) :
    ∃ x, (slotsAfter (emptied xs marks) ((partners cmp xs marks stored).1.take n))[i]? =
      some (some x) ∧ cmp x s = .eq := by
  induction stored generalizing marks n with
  | nil => cases h
  | cons first rest ih =>
    rw [partners_cons] at h ⊢
    cases n with
    | zero =>
      obtain ⟨rfl, found⟩ := Prod.mk.inj (Option.some.inj h)
      obtain ⟨x, _, equal, full, _⟩ := settle_found size found
      exact ⟨x, full, equal⟩
    | succ n =>
      -- The marks after the first search stand for the slots after the first element is handed out.
      have size' := (size_marked marks (freeSlot? cmp xs marks first)).trans size
      rw [List.take_succ_cons, slotsAfter, List.foldl_cons, settle_slots size]
      exact ih size' h

/-- What is handed out is what is in the slot after all elements before. -/
theorem handOut_getElem? {slots : Array (Option α)} {found : List (α × Option Nat)} {n : Nat}
    {f : α × Option Nat} (h : found[n]? = some f) :
    (handOut slots found)[n]? = some (settle (slotsAfter slots (found.take n)) f).1 := by
  induction found generalizing slots n with
  | nil => cases h
  | cons first rest ih =>
    cases n with
    | zero =>
      obtain rfl : first = f := Option.some.inj h
      rfl
    | succ n => exact ih h

end Tenancy.Matching
