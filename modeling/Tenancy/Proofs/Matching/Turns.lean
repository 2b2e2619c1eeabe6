import Tenancy.Proofs.Matching.Shares

/-!
# Each in its turn

What becomes of a stored element can be told without following the procedure: if `j` stored elements
of its class stand before it, it takes the incoming element of that class that has `j` others before
it, and if there is none it is deleted. So the changes can be read off at their positions: those of
the stored elements come first, in the order of these, and all additions after them.
-/

namespace Tenancy.Matching

variable {α : Type} {cmp : α → α → Ordering}

/-- What becomes of a stored element if so many others of its class are served before it. -/
def due (cmp : α → α → Ordering) (incoming : List α) (s : α) (turn : Nat) : Change α :=
  match (classOf cmp s incoming)[turn]? with
  | some i => .update i s
  | none => .delete s

theorem added_due_cons (incoming : List α) (s : α) (turn : Nat) (cs : List (Change α)) :
    added (due cmp incoming s turn :: cs) = added cs := by
  unfold due
  cases (classOf cmp s incoming)[turn]? with
  | some i => rfl
  | none => rfl

/-- The procedure serves the first stored element and goes on without the element it took. -/
theorem greedy_cons (left : List α) (s : α) (rest : List α) :
    greedy cmp left (s :: rest) =
      due cmp left s 0 :: greedy cmp (left.eraseP (alike cmp s)) rest := by
  have first : left.find? (alike cmp s) = (classOf cmp s left)[0]? := by
    rw [head?_classOf, List.head?_eq_getElem?]
  unfold due
  rw [← first]
  cases h : left.find? (alike cmp s) with
  | some x => simp only [greedy, h]
  | none =>
    have nothing : left.eraseP (alike cmp s) = left :=
      List.eraseP_of_forall_not (List.find?_eq_none.mp h)
    simp only [greedy, h, nothing]

/-- Behind what becomes of the stored elements there are additions only. -/
theorem greedy_drop (left stored : List α) :
    (greedy cmp left stored).drop stored.length = (added (greedy cmp left stored)).map .add := by
  induction stored generalizing left with
  | nil => simp only [greedy, added_adds, List.length_nil, List.drop_zero]
  | cons s rest ih =>
    rw [greedy_cons, added_due_cons, List.length_cons, List.drop_succ_cons]
    exact ih _

variable [Std.TransCmp cmp]

/-- An element that is served first takes the turn of the others of its class. -/
theorem due_eraseP (left : List α) (first s : α) (before : List α) :
    due cmp (left.eraseP (alike cmp first)) s (classOf cmp s before).length =
      due cmp left s (classOf cmp s (first :: before)).length := by
  unfold due
  cases h : alike cmp s first with
  | true =>
    rw [classOf_eraseP_alike h, classOf_cons_alike h, List.length_cons, List.getElem?_tail]
  | false => rw [classOf_eraseP_other h, classOf_cons_other h]

theorem greedy_getElem? {left stored : List α} {n : Nat} {s : α} (h : stored[n]? = some s) :
    (greedy cmp left stored)[n]? =
      some (due cmp left s (classOf cmp s (stored.take n)).length) := by
  induction stored generalizing left n with
  | nil => cases h
  | cons first rest ih =>
    rw [greedy_cons]
    cases n with
    | zero =>
      obtain rfl : first = s := Option.some.inj h
      rfl
    | succ n =>
      rw [List.getElem?_cons_succ] at h ⊢
      rw [ih h, due_eraseP, List.take_succ_cons]

/-- The changes are those of the plain procedure that lets every stored element take the first equal
one of what is left and adds the rest in stable order. So the stored elements of a class take the
incoming ones of that class in turn, and all that is done to stored elements comes before all
additions. -/
theorem changes_first_come (cmp : α → α → Ordering) [Std.TransCmp cmp] (incoming stored : List α) :
    changes cmp incoming stored = greedy cmp incoming stored ∧
      (∀ (n : Nat) (s : α), stored[n]? = some s →
        (changes cmp incoming stored)[n]? =
          some (due cmp incoming s (classOf cmp s (stored.take n)).length)) ∧
      (changes cmp incoming stored).drop stored.length =
        (added (changes cmp incoming stored)).map .add := by
  have plain : changes cmp incoming stored = greedy cmp incoming stored :=
    changes_eq_greedy incoming stored
  refine ⟨plain, fun n s h => ?_, ?_⟩
  · rw [plain]
    exact greedy_getElem? h
  · rw [plain]
    exact greedy_drop incoming stored

/-- Of three stored elements of a class the last one goes away empty-handed, and an element of another
class that stands between them does not change their turns. -/
theorem changes_first_come_numbered :
    Std.TransCmp (compareOn (Prod.fst : Nat × Char → Nat)) ∧
      [(1, 'x'), (3, 'y'), (1, 'z'), (1, 'w')][2]? = some (1, 'z') ∧
      (changes (compareOn Prod.fst) [(2, 'b'), (1, 'a'), (1, 'c'), (0, 'd')]
        [(1, 'x'), (3, 'y'), (1, 'z'), (1, 'w')])[2]? = some (.update (1, 'c') (1, 'z')) ∧
      (changes (compareOn Prod.fst) [(2, 'b'), (1, 'a'), (1, 'c'), (0, 'd')]
        [(1, 'x'), (3, 'y'), (1, 'z'), (1, 'w')])[3]? = some (.delete (1, 'w')) :=
  have served := (changes_first_come (compareOn Prod.fst)
    [(2, 'b'), (1, 'a'), (1, 'c'), (0, 'd')] [(1, 'x'), (3, 'y'), (1, 'z'), (1, 'w')]).2.1
  ⟨inferInstance, rfl, served 2 (1, 'z') rfl, served 3 (1, 'w') rfl⟩

end Tenancy.Matching
