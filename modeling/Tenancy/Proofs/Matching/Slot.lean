import Tenancy.Proofs.Matching.Classes

/-!
# Finding a free slot

Within a sorted array bisection stops at the first element that is not below the key. Everything
before it is below the key, and the elements that are equal to the key stand in a run that begins
there; so a walk along that run finds what a walk along the whole array would find, the first free
slot whose element compares equal to the key.
-/

namespace Tenancy.Matching

variable {α : Type} {cmp : α → α → Ordering} {xs : Array α} {marks : Array Bool} {key : α}

/-- The slot holds an element that compares equal to the key, and nobody has taken it. -/
def Free (cmp : α → α → Ordering) (xs : Array α) (marks : Array Bool) (key : α) (i : Nat) : Prop :=
  ∃ x, xs[i]? = some x ∧ cmp x key = .eq ∧ marks[i]? ≠ some true

variable [Std.TransCmp cmp]

theorem ordered_getElem {i j : Nat} {a b : α} (ordered : Ordered cmp xs.toList) (le : i ≤ j)
    (ha : xs[i]? = some a) (hb : xs[j]? = some b) : (cmp a b).isLE = true := by
  rw [← Array.getElem?_toList] at ha hb
  obtain ⟨hi, rfl⟩ := List.getElem?_eq_some_iff.mp ha
  obtain ⟨hj, rfl⟩ := List.getElem?_eq_some_iff.mp hb
  rcases Nat.eq_or_lt_of_le le with rfl | lt
  · exact Std.ReflCmp.isLE_rfl
  · exact List.pairwise_iff_getElem.mp ordered i j hi hj lt

/-! ## Bisection -/

/-- What is known of an index between the elements below the key and the others. -/
structure Parts (cmp : α → α → Ordering) (xs : Array α) (key : α) (lo hi : Nat) : Prop where
  below : ∀ j x, j < lo → xs[j]? = some x → cmp x key = .lt
  above : ∀ j x, hi ≤ j → xs[j]? = some x → cmp x key ≠ .lt

theorem lowerBound_parts (ordered : Ordered cmp xs.toList) {lo hi : Nat} (le : lo ≤ hi)
    (bound : hi ≤ xs.size) (parts : Parts cmp xs key lo hi) :
    Parts cmp xs key (lowerBound cmp xs key lo hi) (lowerBound cmp xs key lo hi) := by
  fun_induction lowerBound cmp xs key lo hi with
  | case1 lo hi lt mid x hx less ih =>
    refine ih (by omega) bound ⟨fun j y hj hy => ?_, parts.above⟩
    have upTo : (cmp y x).isLE = true := ordered_getElem ordered (by omega) hy hx
    exact Std.TransCmp.lt_of_isLE_of_lt upTo less
  | case2 lo hi lt mid x hx notLess ih =>
    refine ih (by omega) (by omega) ⟨parts.below, fun j y hj hy less => notLess ?_⟩
    have onwards : (cmp x y).isLE = true := ordered_getElem ordered hj hx hy
    exact Std.TransCmp.lt_of_isLE_of_lt onwards less
  | case3 lo hi lt mid hx =>
    rw [Array.getElem?_eq_none_iff] at hx
    omega
  | case4 lo hi notLess =>
    have meet : hi = lo := by omega
    exact ⟨parts.below, meet ▸ parts.above⟩

/-! ## The walk along the run -/

omit [Std.TransCmp cmp] in
theorem freeInRun_some {i p : Nat} (h : freeInRun cmp xs marks key i = some p) :
    i ≤ p ∧ Free cmp xs marks key p ∧ ∀ j, i ≤ j → j < p → ¬ Free cmp xs marks key j := by
  fun_induction freeInRun cmp xs marks key i with
  | case1 i hi equal taken ih =>
    obtain ⟨le, free, first⟩ := ih h
    refine ⟨by omega, free, fun j hj hp => ?_⟩
    rcases Nat.eq_or_lt_of_le hj with rfl | lt
    · rintro ⟨x, _, _, untaken⟩
      exact untaken taken
    · exact first j lt hp
  | case2 i hi equal untaken =>
    cases h
    exact ⟨Nat.le_refl _, ⟨xs[p], by simp [hi], equal, untaken⟩, fun j hj hp => by omega⟩
  | case3 => cases h
  | case4 => cases h

theorem freeInRun_none (ordered : Ordered cmp xs.toList) {i : Nat}
    (above : ∀ j x, i ≤ j → xs[j]? = some x → cmp x key ≠ .lt)
    (h : freeInRun cmp xs marks key i = none) : ∀ j, i ≤ j → ¬ Free cmp xs marks key j := by
  fun_induction freeInRun cmp xs marks key i with
  | case1 i hi equal taken ih =>
    intro j hj
    rcases Nat.eq_or_lt_of_le hj with rfl | lt
    · rintro ⟨x, _, _, untaken⟩
      exact untaken taken
    · exact ih (fun j x hj hx => above j x (by omega) hx) h j lt
  | case2 => cases h
  | case3 i hi notEqual =>
    -- The run ends here, and what follows is above the key.
    rintro j hj ⟨x, hx, equal, _⟩
    have here : xs[i]? = some xs[i] := by simp [hi]
    have onwards : (cmp xs[i] x).isLE = true := ordered_getElem ordered hj here hx
    have upTo : (cmp xs[i] key).isLE = true := by
      rw [← Std.TransCmp.congr_right equal]
      exact onwards
    cases hc : cmp xs[i] key with
    | lt => exact above i _ (Nat.le_refl i) here hc
    | eq => exact notEqual hc
    | gt => rw [hc] at upTo; cases upTo
  | case4 i hi =>
    rintro j hj ⟨x, hx, _⟩
    rw [Array.getElem?_eq_none (by omega)] at hx
    cases hx

/-! ## The first free slot -/

variable (ordered : Ordered cmp xs.toList)
include ordered

theorem bound_parts : Parts cmp xs key (lowerBound cmp xs key 0 xs.size)
    (lowerBound cmp xs key 0 xs.size) := by
  refine lowerBound_parts ordered (Nat.zero_le _) (Nat.le_refl _) ⟨?_, ?_⟩
  · intro j x hj
    omega
  · intro j x hj hx
    rw [Array.getElem?_eq_none hj] at hx
    cases hx

theorem not_free_before {j : Nat} (hj : j < lowerBound cmp xs key 0 xs.size) :
    ¬ Free cmp xs marks key j := by
  rintro ⟨x, hx, equal, _⟩
  have less := (bound_parts ordered).below j x hj hx
  rw [equal] at less
  cases less

/-- The search finds a slot if and only if it is the first free one. -/
theorem freeSlot_eq_some_iff {p : Nat} :
    freeSlot? cmp xs marks key = some p ↔
      Free cmp xs marks key p ∧ ∀ j < p, ¬ Free cmp xs marks key j := by
  have onlyIf {p : Nat} (h : freeSlot? cmp xs marks key = some p) :
      Free cmp xs marks key p ∧ ∀ j < p, ¬ Free cmp xs marks key j := by
    obtain ⟨le, free, first⟩ := freeInRun_some h
    refine ⟨free, fun j hj => ?_⟩
    by_cases start : j < lowerBound cmp xs key 0 xs.size
    · exact not_free_before ordered start
    · exact first j (by omega) hj
  refine ⟨onlyIf, fun ⟨free, first⟩ => ?_⟩
  cases h : freeSlot? cmp xs marks key with
  | none =>
    refine absurd free ?_
    by_cases start : p < lowerBound cmp xs key 0 xs.size
    · exact not_free_before ordered start
    · exact freeInRun_none ordered (bound_parts ordered).above h p (by omega)
  | some q =>
    obtain ⟨free', first'⟩ := onlyIf h
    rcases Nat.lt_trichotomy q p with lt | rfl | lt
    · exact absurd free' (first q lt)
    · rfl
    · exact absurd free (first' p lt)

/-- The search finds nothing if and only if nothing is free. -/
theorem freeSlot_eq_none_iff :
    freeSlot? cmp xs marks key = none ↔ ∀ j, ¬ Free cmp xs marks key j := by
  refine ⟨fun h j => ?_, fun none => ?_⟩
  · by_cases start : j < lowerBound cmp xs key 0 xs.size
    · exact not_free_before ordered start
    · exact freeInRun_none ordered (bound_parts ordered).above h j (by omega)
  · cases h : freeSlot? cmp xs marks key with
    | none => rfl
    | some p => exact absurd ((freeSlot_eq_some_iff ordered).mp h).1 (none p)

end Tenancy.Matching
