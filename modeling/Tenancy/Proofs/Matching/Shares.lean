import Tenancy.Proofs.Matching.Greedy

/-!
# Who gets what

Within each class the changes are as simple as they can be: the first incoming element goes to the
first stored one, the second to the second, and so on for as long as there are both; what is left of
the incoming class is added and what is left of the stored class is deleted. Nothing is lost and
nothing is used twice.
-/

namespace Tenancy.Matching

variable {α : Type}

/-- The updates in a list of changes, as pairs of an incoming and a stored element. -/
def paired (cs : List (Change α)) : List (α × α) :=
  cs.filterMap fun
    | .update i s => some (i, s)
    | _ => none

/-- The elements that a list of changes adds. -/
def added (cs : List (Change α)) : List α :=
  cs.filterMap fun
    | .add i => some i
    | _ => none

/-- The elements that a list of changes deletes. -/
def deleted (cs : List (Change α)) : List α :=
  cs.filterMap fun
    | .delete s => some s
    | _ => none

theorem paired_adds (left : List α) : paired (left.map .add) = [] := by
  induction left with
  | nil => rfl
  | cons x left ih => exact ih

theorem deleted_adds (left : List α) : deleted (left.map .add) = [] := by
  induction left with
  | nil => rfl
  | cons x left ih => exact ih

theorem added_adds (left : List α) : added (left.map .add) = left := by
  induction left with
  | nil => rfl
  | cons x left ih => exact congrArg (x :: ·) ih

theorem cons_eraseP_perm {p : α → Bool} {x : α} {left : List α} (h : left.find? p = some x) :
    (x :: left.eraseP p).Perm left := by
  induction left with
  | nil => cases h
  | cons y left ih =>
    cases hy : p y with
    | true =>
      rw [List.find?_cons_of_pos hy] at h
      rw [List.eraseP_cons_of_pos hy, Option.some.inj h]
    | false =>
      rw [List.find?_cons_of_neg (by simp [hy])] at h
      rw [List.eraseP_cons_of_neg (by simp [hy])]
      exact (List.Perm.swap y x _).trans ((ih h).cons y)

variable {cmp : α → α → Ordering}

/-! ## Nothing is lost -/

/-- Every incoming element is used in an update or added. -/
theorem greedy_incoming (left stored : List α) :
    ((paired (greedy cmp left stored)).map Prod.fst ++ added (greedy cmp left stored)).Perm left := by
  induction stored generalizing left with
  | nil =>
    simp only [greedy, paired_adds, added_adds, List.map_nil, List.nil_append]
    exact List.mergeSort_perm left _
  | cons s rest ih =>
    cases h : left.find? (alike cmp s) with
    | none =>
      simp only [greedy, h]
      exact ih left
    | some x =>
      simp only [greedy, h]
      exact ((ih _).cons x).trans (cons_eraseP_perm h)

/-- The stored elements that are updated are what remains of the stored list, in order, if those
that are deleted are dropped. -/
theorem greedy_stored (left stored : List α) (keeps : α → Bool)
    (kept : ∀ p ∈ paired (greedy cmp left stored), keeps p.2 = true)
    (dropped : ∀ s ∈ deleted (greedy cmp left stored), keeps s = false) :
    stored.filter keeps = (paired (greedy cmp left stored)).map Prod.snd := by
  induction stored generalizing left with
  | nil => simp only [greedy, paired_adds, List.filter_nil, List.map_nil]
  | cons s rest ih =>
    cases h : left.find? (alike cmp s) with
    | none =>
      simp only [greedy, h] at kept dropped ⊢
      rw [List.filter_cons_of_neg (by simp [dropped s List.mem_cons_self])]
      exact ih left kept fun s' hs => dropped s' (List.mem_cons_of_mem _ hs)
    | some x =>
      simp only [greedy, h] at kept dropped ⊢
      rw [List.filter_cons_of_pos (kept (x, s) List.mem_cons_self)]
      exact congrArg (s :: ·) (ih _ (fun p hp => kept p (List.mem_cons_of_mem _ hp)) dropped)

/-- The stored elements are those that are updated and those that are deleted. -/
theorem greedy_stored_perm (left stored : List α) :
    ((paired (greedy cmp left stored)).map Prod.snd ++ deleted (greedy cmp left stored)).Perm
      stored := by
  induction stored generalizing left with
  | nil =>
    simp only [greedy, paired_adds, deleted_adds, List.map_nil, List.nil_append]
    exact List.Perm.refl []
  | cons s rest ih =>
    cases h : left.find? (alike cmp s) with
    | none =>
      simp only [greedy, h]
      exact List.perm_middle.trans ((ih left).cons s)
    | some x =>
      simp only [greedy, h]
      exact (ih _).cons s

/-- Only elements that compare equal are paired. -/
theorem greedy_alike (left stored : List α) :
    ∀ p ∈ paired (greedy cmp left stored), cmp p.1 p.2 = .eq := by
  induction stored generalizing left with
  | nil =>
    simp only [greedy, paired_adds]
    exact fun p hp => (List.not_mem_nil hp).elim
  | cons s rest ih =>
    cases h : left.find? (alike cmp s) with
    | none =>
      simp only [greedy, h]
      exact ih left
    | some x =>
      simp only [greedy, h]
      intro p hp
      rcases List.mem_cons.mp hp with rfl | hp
      · exact alike_iff.mp (List.find?_some h)
      · exact ih _ p hp

/-! ## Within a class -/

/-- How a class is shared out. -/
structure Shared (cmp : α → α → Ordering) (key : α) (left stored : List α) (cs : List (Change α)) :
    Prop where
  paired : (paired cs).filter (fun p => alike cmp key p.2) =
    (classOf cmp key left).zip (classOf cmp key stored)
  added : classOf cmp key (added cs) = (classOf cmp key left).drop (classOf cmp key stored).length
  deleted : classOf cmp key (deleted cs) =
    (classOf cmp key stored).drop (classOf cmp key left).length

variable [Std.TransCmp cmp]

theorem greedy_shared (key : α) (left stored : List α) :
    Shared cmp key left stored (greedy cmp left stored) := by
  induction stored generalizing left with
  | nil =>
    simp only [greedy]
    refine ⟨?_, ?_, ?_⟩
    · rw [paired_adds]
      exact List.zip_nil_right.symm
    · rw [added_adds, classOf_stable]
      rfl
    · rw [deleted_adds]
      exact List.drop_nil.symm
  | cons s rest ih =>
    cases hk : alike cmp key s with
    | true =>
      have found : left.find? (alike cmp s) = (classOf cmp key left).head? := by
        rw [head?_classOf, classOf_congr hk]
      cases h : left.find? (alike cmp s) with
      | none =>
        have empty : classOf cmp key left = [] := List.head?_eq_none_iff.mp (found.symm.trans h)
        obtain ⟨pairs, adds, deletes⟩ := ih left
        rw [empty] at pairs adds deletes
        simp only [greedy, h]
        refine ⟨?_, ?_, ?_⟩
        · rw [empty]
          exact pairs
        · rw [empty, List.drop_nil]
          exact adds.trans List.drop_nil
        · rw [empty, classOf_cons_alike hk]
          exact (classOf_cons_alike hk _).trans (congrArg (s :: ·) deletes)
      | some x =>
        obtain ⟨others, first⟩ := List.head?_eq_some_iff.mp (found.symm.trans h)
        obtain ⟨pairs, adds, deletes⟩ := ih (left.eraseP (alike cmp s))
        rw [classOf_eraseP_alike hk, first, List.tail_cons] at pairs adds deletes
        simp only [greedy, h]
        refine ⟨?_, ?_, ?_⟩
        · rw [first, classOf_cons_alike hk, List.zip_cons_cons, ← pairs]
          exact List.filter_cons_of_pos hk
        · rw [first, classOf_cons_alike hk]
          exact adds
        · rw [first, classOf_cons_alike hk]
          exact deletes
    | false =>
      cases h : left.find? (alike cmp s) with
      | none =>
        obtain ⟨pairs, adds, deletes⟩ := ih left
        simp only [greedy, h]
        refine ⟨?_, ?_, ?_⟩
        · rw [classOf_cons_other hk]
          exact pairs
        · rw [classOf_cons_other hk]
          exact adds
        · rw [classOf_cons_other hk]
          exact (classOf_cons_other hk _).trans deletes
      | some x =>
        obtain ⟨pairs, adds, deletes⟩ := ih (left.eraseP (alike cmp s))
        rw [classOf_eraseP_other hk] at pairs adds deletes
        simp only [greedy, h]
        refine ⟨?_, ?_, ?_⟩
        · rw [classOf_cons_other hk, ← pairs]
          exact List.filter_cons_of_neg (by simp [hk])
        · rw [classOf_cons_other hk]
          exact adds
        · rw [classOf_cons_other hk]
          exact deletes

/-! ## The changes -/

theorem changes_shared (key : α) (incoming stored : List α) :
    Shared cmp key incoming stored (changes cmp incoming stored) := by
  rw [changes_eq_greedy]
  exact greedy_shared key incoming stored

theorem changes_alike (incoming stored : List α) :
    ∀ p ∈ paired (changes cmp incoming stored), cmp p.1 p.2 = .eq := by
  rw [changes_eq_greedy]
  exact greedy_alike incoming stored

theorem changes_incoming (incoming stored : List α) :
    ((paired (changes cmp incoming stored)).map Prod.fst ++
      added (changes cmp incoming stored)).Perm incoming := by
  rw [changes_eq_greedy]
  exact greedy_incoming incoming stored

theorem changes_stored (incoming stored : List α) :
    ((paired (changes cmp incoming stored)).map Prod.snd ++
      deleted (changes cmp incoming stored)).Perm stored := by
  rw [changes_eq_greedy]
  exact greedy_stored_perm incoming stored

theorem changes_kept {incoming stored : List α} {keeps : α → Bool}
    (kept : ∀ p ∈ paired (changes cmp incoming stored), keeps p.2 = true)
    (dropped : ∀ s ∈ deleted (changes cmp incoming stored), keeps s = false) :
    stored.filter keeps = (paired (changes cmp incoming stored)).map Prod.snd := by
  rw [changes_eq_greedy] at *
  exact greedy_stored incoming stored keeps kept dropped

end Tenancy.Matching
