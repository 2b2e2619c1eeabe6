import Tenancy.Matching

/-!
# Classes of equal elements

A comparison puts the elements of a list into classes of those that compare equal. A stable sort
moves the classes into their order and leaves each of them as it was, and there is only one sorted
list with given classes. So whatever is done to a list class by class can be done to the sorted list
instead.
-/

namespace Tenancy.Matching

variable {α : Type} {cmp : α → α → Ordering}

/-- Whether an element compares equal to a given one. -/
def alike (cmp : α → α → Ordering) (key x : α) : Bool := cmp x key = .eq

/-- The elements that compare equal to a given one, in order. -/
def classOf (cmp : α → α → Ordering) (key : α) (xs : List α) : List α := xs.filter (alike cmp key)

/-- No element is above one that follows it. -/
def Ordered (cmp : α → α → Ordering) (xs : List α) : Prop := xs.Pairwise fun a b => (cmp a b).isLE

theorem alike_iff {key x : α} : alike cmp key x = true ↔ cmp x key = .eq := by simp [alike]

theorem classOf_cons_alike {key x : α} (h : alike cmp key x = true) (xs : List α) :
    classOf cmp key (x :: xs) = x :: classOf cmp key xs := List.filter_cons_of_pos h

theorem classOf_cons_other {key x : α} (h : alike cmp key x = false) (xs : List α) :
    classOf cmp key (x :: xs) = classOf cmp key xs := List.filter_cons_of_neg (by simp [h])

variable [Std.TransCmp cmp]

theorem alike_self (key : α) : alike cmp key key = true := by
  rw [alike_iff]
  exact Std.ReflCmp.compare_self

/-- Elements that compare equal are equal to the same ones. -/
theorem alike_congr {key x : α} (h : alike cmp key x = true) : alike cmp key = alike cmp x := by
  rw [alike_iff] at h
  funext y
  unfold alike
  rw [Std.TransCmp.congr_right h]

/-- Elements that compare equal belong to the same classes. -/
theorem alike_of_alike {s x : α} (h : alike cmp s x = true) (key : α) :
    alike cmp key x = alike cmp key s := by
  rw [alike_iff] at h
  unfold alike
  rw [Std.TransCmp.congr_left h]

theorem classOf_congr {key x : α} (h : alike cmp key x = true) (xs : List α) :
    classOf cmp key xs = classOf cmp x xs := by
  unfold classOf
  rw [alike_congr h]

/-! ## Stable sorting -/

/-- The elements of a list in stable order. -/
def stable (cmp : α → α → Ordering) (xs : List α) : List α :=
  xs.mergeSort fun a b => (cmp a b).isLE

theorem isLE_total (a b : α) : ((cmp a b).isLE || (cmp b a).isLE) = true := by
  rw [Bool.or_eq_true]
  cases h : (cmp a b).isLE with
  | true => exact .inl rfl
  | false =>
    have below : cmp b a = .lt := Std.OrientedCmp.lt_of_not_isLE (by simp [h])
    rw [below]
    exact .inr rfl

theorem stable_ordered (xs : List α) : Ordered cmp (stable cmp xs) :=
  List.pairwise_mergeSort (fun _ _ _ => Std.TransCmp.isLE_trans) isLE_total xs

theorem classOf_ordered (key : α) (xs : List α) : Ordered cmp (classOf cmp key xs) := by
  refine List.pairwise_of_forall_mem_list fun a ha b hb => ?_
  have below : cmp a key = .eq := alike_iff.mp (List.mem_filter.mp ha).2
  have above : cmp b key = .eq := alike_iff.mp (List.mem_filter.mp hb).2
  rw [Std.TransCmp.eq_trans below (Std.OrientedCmp.eq_symm above)]
  rfl

/-- Sorting leaves every class as it was. -/
theorem classOf_stable (key : α) (xs : List α) :
    classOf cmp key (stable cmp xs) = classOf cmp key xs := by
  have within : (classOf cmp key xs).Sublist (stable cmp xs) :=
    List.sublist_mergeSort (fun _ _ _ => Std.TransCmp.isLE_trans) isLE_total
      (classOf_ordered key xs) List.filter_sublist
  have kept : (classOf cmp key xs).Sublist (classOf cmp key (stable cmp xs)) := by
    have filtered := within.filter (alike cmp key)
    unfold classOf at filtered ⊢
    rwa [List.filter_filter, List.filter_congr fun x _ => Bool.and_self _] at filtered
  have size : (classOf cmp key (stable cmp xs)).length = (classOf cmp key xs).length :=
    ((List.mergeSort_perm xs _).filter (alike cmp key)).length_eq
  exact (kept.eq_of_length size.symm).symm

theorem mem_classOf_self {x : α} {xs : List α} : x ∈ classOf cmp x xs ↔ x ∈ xs := by
  rw [classOf, List.mem_filter]
  exact and_iff_left (alike_self x)

theorem mem_iff_of_classes {xs ys : List α} (same : ∀ key, classOf cmp key xs = classOf cmp key ys)
    (x : α) : x ∈ xs ↔ x ∈ ys := by
  have own : x ∈ classOf cmp x xs ↔ x ∈ classOf cmp x ys := by rw [same x]
  rwa [mem_classOf_self, mem_classOf_self] at own

/-- A sorted list is known by its classes. -/
theorem eq_of_classes {xs ys : List α} (hx : Ordered cmp xs) (hy : Ordered cmp ys)
    (same : ∀ key, classOf cmp key xs = classOf cmp key ys) : xs = ys := by
  induction xs generalizing ys with
  | nil =>
    cases ys with
    | nil => rfl
    | cons y ys =>
      exact absurd ((mem_iff_of_classes same y).mpr List.mem_cons_self) List.not_mem_nil
  | cons x xs ih =>
    cases ys with
    | nil => exact absurd ((mem_iff_of_classes same x).mp List.mem_cons_self) List.not_mem_nil
    | cons y ys =>
      obtain ⟨x_least, rest_x⟩ := List.pairwise_cons.mp hx
      obtain ⟨y_least, rest_y⟩ := List.pairwise_cons.mp hy
      -- Each of the two heads occurs in the other list, so neither is above the other.
      have equal : cmp x y = .eq := by
        rcases List.mem_cons.mp ((mem_iff_of_classes same y).mpr List.mem_cons_self) with rfl | hy'
        · exact Std.ReflCmp.compare_self
        rcases List.mem_cons.mp ((mem_iff_of_classes same x).mp List.mem_cons_self) with rfl | hx'
        · exact Std.ReflCmp.compare_self
        · exact Std.OrientedCmp.isLE_antisymm (x_least y hy') (y_least x hx')
      have heads := same y
      rw [classOf_cons_alike (alike_iff.mpr equal), classOf_cons_alike (alike_self y)] at heads
      obtain ⟨rfl, _⟩ := List.cons.inj heads
      have tails (key : α) : classOf cmp key xs = classOf cmp key ys := by
        have whole := same key
        cases h : alike cmp key x with
        | true =>
          rw [classOf_cons_alike h, classOf_cons_alike h] at whole
          exact (List.cons.inj whole).2
        | false => rwa [classOf_cons_other h, classOf_cons_other h] at whole
      rw [ih rest_x rest_y tails]

end Tenancy.Matching
