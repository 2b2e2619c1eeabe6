import Tenancy.Proofs.Matching.Emptying

/-!
# First come, first served

The changes are those of a plain procedure that knows nothing of sorting, bisection or marks: each
stored element takes the first incoming element that compares equal to it out of those that are
left, and what is left in the end is added in stable order. The marks stand for what is left in
sorted order, and as the procedure goes by classes only, it does not matter that it was sorted.
-/

namespace Tenancy.Matching

variable {α : Type} {cmp : α → α → Ordering}

/-- The changes, found by taking the first equal element of those that are left. -/
def greedy (cmp : α → α → Ordering) : List α → List α → List (Change α)
  | left, [] => (stable cmp left).map .add
  | left, s :: rest =>
    match left.find? (alike cmp s) with
    | some x => .update x s :: greedy cmp (left.eraseP (alike cmp s)) rest
    | none => .delete s :: greedy cmp left rest

/-! ## What the marks stand for -/

/-- The elements that are not marked. -/
def unmarked (xs : List α) (marks : List Bool) : List α :=
  ((xs.zip marks).filter fun p => !p.2).map (·.1)

/-- The elements whose slots are not marked, in sorted order. -/
def untaken (xs : Array α) (marks : Array Bool) : List α := unmarked xs.toList marks.toList

theorem unmarked_append {xs ys : List α} {ms ns : List Bool} (h : xs.length = ms.length) :
    unmarked (xs ++ ys) (ms ++ ns) = unmarked xs ms ++ unmarked ys ns := by
  unfold unmarked
  rw [List.zip_append h, List.filter_append, List.map_append]

theorem mem_unmarked {xs : List α} {ms : List Bool} {y : α} (h : y ∈ unmarked xs ms) :
    ∃ j : Nat, xs[j]? = some y ∧ ms[j]? = some false := by
  induction xs generalizing ms with
  | nil => cases h
  | cons x xs ih =>
    cases ms with
    | nil => cases h
    | cons m ms =>
      have rest (h : y ∈ unmarked xs ms) :
          ∃ j : Nat, (x :: xs)[j]? = some y ∧ (m :: ms)[j]? = some false := by
        obtain ⟨j, hx, hm⟩ := ih h
        exact ⟨j + 1, hx, hm⟩
      cases m with
      | true => exact rest h
      | false =>
        rcases List.mem_cons.mp h with rfl | h
        · exact ⟨0, rfl, rfl⟩
        · exact rest h

theorem unmarked_fresh (xs : List α) : unmarked xs (List.replicate xs.length false) = xs := by
  induction xs with
  | nil => rfl
  | cons x xs ih =>
    rw [List.length_cons, List.replicate_succ]
    exact congrArg (x :: ·) ih

theorem unmarked_sublist {xs : List α} {ms : List Bool} : (unmarked xs ms).Sublist xs := by
  induction xs generalizing ms with
  | nil => exact List.nil_sublist _
  | cons x xs ih =>
    cases ms with
    | nil => exact List.nil_sublist _
    | cons m ms =>
      cases m with
      | true => exact ih.cons x
      | false => exact ih.cons_cons x

theorem filterMap_unmarked {xs : List α} {ms : List Bool} (h : ms.length = xs.length) :
    (xs.mapIdx fun i x => if ms[i]? = some true then none else some x).filterMap id =
      unmarked xs ms := by
  induction xs generalizing ms with
  | nil => rfl
  | cons x xs ih =>
    cases ms with
    | nil => cases h
    | cons m ms =>
      have rest := ih (Nat.succ.inj h)
      cases m with
      | true => simpa [unmarked] using rest
      | false => simpa [unmarked] using rest

/-- What is left in the slots is what is not marked. -/
theorem filterMap_emptied {xs : Array α} {marks : Array Bool} (size : marks.size = xs.size) :
    (emptied xs marks).toList.filterMap id = untaken xs marks := by
  unfold emptied untaken
  rw [Array.toList_mapIdx, ← filterMap_unmarked size]
  simp only [Array.getElem?_toList]

theorem split_at {β : Type} {l : List β} {i : Nat} {b : β} (h : l[i]? = some b) :
    ∃ before after, l = before ++ b :: after ∧ before.length = i := by
  obtain ⟨hi, rfl⟩ := List.getElem?_eq_some_iff.mp h
  refine ⟨l.take i, l.drop (i + 1), ?_, List.length_take_of_le (Nat.le_of_lt hi)⟩
  rw [List.getElem_cons_drop, List.take_append_drop]

theorem head?_classOf (key : α) (left : List α) :
    left.find? (alike cmp key) = (classOf cmp key left).head? := List.head?_filter.symm

variable [Std.TransCmp cmp] {xs : Array α} {marks : Array Bool} {key : α}

/-- A slot that was found is that of the first unmarked element that is equal to the key, and
marking it takes that element out. -/
theorem freeSlot_some (ordered : Ordered cmp xs.toList) (size : marks.size = xs.size) {p : Nat}
    (h : freeSlot? cmp xs marks key = some p) :
    ∃ x, xs[p]? = some x ∧ (untaken xs marks).find? (alike cmp key) = some x ∧
      untaken xs (marks.setIfInBounds p true) = (untaken xs marks).eraseP (alike cmp key) := by
  obtain ⟨⟨x, hx, equal, free⟩, first⟩ := (freeSlot_eq_some_iff ordered).mp h
  have within : p < marks.size := by
    rw [size]
    exact (Array.getElem?_eq_some_iff.mp hx).1
  have open_ : marks.toList[p]? = some false := by
    rw [Array.getElem?_toList, Array.getElem?_eq_getElem within] at *
    cases hm : marks[p] with
    | false => rfl
    | true => exact (free (by rw [hm])).elim
  have hx' : xs.toList[p]? = some x := by rw [Array.getElem?_toList, hx]
  obtain ⟨xs₁, xs₂, hxs, len⟩ := split_at hx'
  obtain ⟨ms₁, ms₂, hms, len'⟩ := split_at open_
  have before : ∀ y ∈ unmarked xs₁ ms₁, ¬ alike cmp key y = true := by
    intro y hy equal'
    obtain ⟨j, hj, hj'⟩ := mem_unmarked hy
    have lt : j < p := by
      rw [← len]
      exact (List.getElem?_eq_some_iff.mp hj).1
    refine first j lt ⟨y, ?_, alike_iff.mp equal', ?_⟩
    · rw [← Array.getElem?_toList, hxs, List.getElem?_append_left (by omega), hj]
    · rw [← Array.getElem?_toList, hms, List.getElem?_append_left (by omega), hj']
      simp
  have whole : untaken xs marks = unmarked xs₁ ms₁ ++ x :: unmarked xs₂ ms₂ := by
    show unmarked xs.toList marks.toList = _
    rw [hxs, hms, unmarked_append (by omega)]
    rfl
  have marked : untaken xs (marks.setIfInBounds p true) = unmarked xs₁ ms₁ ++ unmarked xs₂ ms₂ := by
    show unmarked xs.toList (marks.setIfInBounds p true).toList = _
    rw [Array.toList_setIfInBounds, hxs, hms, ← len', List.set_append_right _ _ (Nat.le_refl _),
      Nat.sub_self, List.set_cons_zero, unmarked_append (by omega)]
    rfl
  refine ⟨x, hx, ?_, ?_⟩
  · rw [whole, List.find?_append, List.find?_eq_none.mpr before,
      List.find?_cons_of_pos (alike_iff.mpr equal)]
    rfl
  · rw [marked, whole, List.eraseP_append_right _ before,
      List.eraseP_cons_of_pos (alike_iff.mpr equal)]

theorem freeSlot_none (ordered : Ordered cmp xs.toList) (h : freeSlot? cmp xs marks key = none) :
    (untaken xs marks).find? (alike cmp key) = none := by
  refine List.find?_eq_none.mpr fun y hy equal => ?_
  obtain ⟨j, hj, hj'⟩ := mem_unmarked hy
  rw [Array.getElem?_toList] at hj hj'
  exact (freeSlot_eq_none_iff ordered).mp h j ⟨y, hj, alike_iff.mp equal, by simp [hj']⟩

/-! ## The simulation -/

/-- What is done with the marks is done by the plain procedure with what they leave. -/
theorem partners_greedy (ordered : Ordered cmp xs.toList) (stored : List α) (marks : Array Bool)
    (size : marks.size = xs.size) :
    handOut (emptied xs marks) (partners cmp xs marks stored).1 =
      greedy cmp (untaken xs marks) stored := by
  induction stored generalizing marks with
  | nil =>
    have left : Ordered cmp (untaken xs marks) := ordered.sublist unmarked_sublist
    have still : stable cmp (untaken xs marks) = untaken xs marks := List.mergeSort_of_pairwise left
    simp only [partners, handOut, filterMap_emptied size, greedy, still]
  | cons s rest ih =>
    rw [partners_cons]
    cases h : freeSlot? cmp xs marks s with
    | some p =>
      obtain ⟨x, hx, found, taken⟩ := freeSlot_some ordered size h
      obtain ⟨y, hy, _, _, settled⟩ := settle_found size h
      obtain rfl : x = y := Option.some.inj (hx.symm.trans hy)
      have size' : (marked marks (some p)).size = xs.size := (size_marked marks _).trans size
      simp only [handOut, settled, greedy, found]
      rw [ih _ size', marked, taken]
    | none =>
      have missing := freeSlot_none ordered h
      simp only [handOut, settle, greedy, missing, marked]
      rw [ih _ size]

theorem classOf_eraseP_alike {key s : α} (h : alike cmp key s = true) (left : List α) :
    classOf cmp key (left.eraseP (alike cmp s)) = (classOf cmp key left).tail := by
  rw [← alike_congr h]
  induction left with
  | nil => rfl
  | cons x left ih =>
    cases hx : alike cmp key x with
    | true =>
      rw [List.eraseP_cons_of_pos hx, classOf_cons_alike hx, List.tail_cons]
    | false =>
      rw [List.eraseP_cons_of_neg (by simp [hx]), classOf_cons_other hx, classOf_cons_other hx, ih]

theorem classOf_eraseP_other {key s : α} (h : alike cmp key s = false) (left : List α) :
    classOf cmp key (left.eraseP (alike cmp s)) = classOf cmp key left := by
  induction left with
  | nil => rfl
  | cons x left ih =>
    cases hx : alike cmp s x with
    | true =>
      have other : alike cmp key x = false := by rw [alike_of_alike hx, h]
      rw [List.eraseP_cons_of_pos hx, classOf_cons_other other]
    | false =>
      rw [List.eraseP_cons_of_neg (by simp [hx])]
      cases hk : alike cmp key x with
      | true => rw [classOf_cons_alike hk, classOf_cons_alike hk, ih]
      | false => rw [classOf_cons_other hk, classOf_cons_other hk, ih]

/-- The procedure goes by classes only. -/
theorem greedy_congr {left left' : List α} (stored : List α)
    (same : ∀ key, classOf cmp key left = classOf cmp key left') :
    greedy cmp left stored = greedy cmp left' stored := by
  induction stored generalizing left left' with
  | nil =>
    have sorted : stable cmp left = stable cmp left' := by
      refine eq_of_classes (stable_ordered _) (stable_ordered _) fun key => ?_
      rw [classOf_stable, classOf_stable, same]
    simp only [greedy, sorted]
  | cons s rest ih =>
    have found : left.find? (alike cmp s) = left'.find? (alike cmp s) := by
      rw [head?_classOf, head?_classOf, same]
    have erased (key : α) : classOf cmp key (left.eraseP (alike cmp s)) =
        classOf cmp key (left'.eraseP (alike cmp s)) := by
      cases h : alike cmp key s with
      | true => rw [classOf_eraseP_alike h, classOf_eraseP_alike h, same]
      | false => rw [classOf_eraseP_other h, classOf_eraseP_other h, same]
    simp only [greedy, found, ih erased, ih same]

/-- The changes are those of first come, first served. -/
theorem changes_eq_greedy (incoming stored : List α) :
    changes cmp incoming stored = greedy cmp incoming stored := by
  have ordered : Ordered cmp (sorted cmp incoming).toList := stable_ordered incoming
  have fresh : untaken (sorted cmp incoming)
      (Array.replicate (sorted cmp incoming).size false) = stable cmp incoming := by
    show unmarked _ (Array.replicate _ false).toList = _
    rw [Array.toList_replicate]
    exact unmarked_fresh _
  have simulated := partners_greedy ordered stored
    (Array.replicate (sorted cmp incoming).size false) Array.size_replicate
  rw [fresh, emptied_fresh] at simulated
  exact simulated.trans (greedy_congr stored fun key => classOf_stable key incoming)

end Tenancy.Matching
