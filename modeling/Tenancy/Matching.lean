/-!
# Matching a stored collection with an incoming one

Two collections are brought in line by three kinds of change: a stored element that finds a partner
among the incoming ones is updated, one that finds none is deleted, and an incoming element that
nobody took is added. The incoming elements are sorted once; every stored element then looks its
partner up by bisection, at the front of the run of elements that compare equal to it. An element
that has been taken is marked and passed over, never moved, so a lookup stays logarithmic up to
the length of the run. When all lookups are done the elements are handed out, each from its slot.

Equal elements are matched first come, first served: `sorted` is a stable sort and `freeSlot?` takes
the first slot of the run that is still free.
-/

namespace Tenancy.Matching

variable {α : Type}

/-- What has to happen to one element for the stored collection to become the incoming one. -/
inductive Change (α : Type) where
  /-- The stored element takes the content of its incoming partner. -/
  | update (incoming stored : α)
  /-- The stored element has no partner. -/
  | delete (stored : α)
  /-- The incoming element was taken by nobody. -/
  | add (incoming : α)
  deriving Repr, DecidableEq

/-- The incoming elements in stable order. -/
def sorted (cmp : α → α → Ordering) (incoming : List α) : Array α :=
  (incoming.mergeSort fun a b => (cmp a b).isLE).toArray

/-- The least index in `lo, …, hi - 1` whose element is not below `key`, or `hi`; by bisection. -/
def lowerBound (cmp : α → α → Ordering) (xs : Array α) (key : α) (lo hi : Nat) : Nat :=
  if lo < hi then
    let mid := (lo + hi) / 2
    match xs[mid]? with
    | some x => if cmp x key = .lt then lowerBound cmp xs key (mid + 1) hi
                else lowerBound cmp xs key lo mid
    | none => lo
  else lo
termination_by hi - lo

/-- The first free index at or after `i` within the run of elements equal to `key`. -/
def freeInRun (cmp : α → α → Ordering) (xs : Array α) (taken : Array Bool) (key : α) (i : Nat) :
    Option Nat :=
  if h : i < xs.size then
    if cmp xs[i] key = .eq then
      if taken[i]? = some true then freeInRun cmp xs taken key (i + 1) else some i
    else none
  else none
termination_by xs.size - i

/-- The first free slot whose element compares equal to `key`. -/
def freeSlot? (cmp : α → α → Ordering) (xs : Array α) (taken : Array Bool) (key : α) : Option Nat :=
  freeInRun cmp xs taken key (lowerBound cmp xs key 0 xs.size)

/-- The slots that the stored elements take one after the other, and the marks left behind. -/
def partners (cmp : α → α → Ordering) (xs : Array α) :
    Array Bool → List α → List (α × Option Nat) × Array Bool
  | taken, [] => ([], taken)
  | taken, s :: rest =>
    match freeSlot? cmp xs taken s with
    | some i =>
      let (found, marks) := partners cmp xs (taken.setIfInBounds i true) rest
      ((s, some i) :: found, marks)
    | none =>
      let (found, marks) := partners cmp xs taken rest
      ((s, none) :: found, marks)

/-- The change for a stored element with the slot that was found for it, and the slots without what
it takes out. -/
def settle (slots : Array (Option α)) : α × Option Nat → Change α × Array (Option α)
  | (s, none) => (.delete s, slots)
  | (s, some i) =>
    match slots[i]?.join with
    | some x => (.update x s, slots.setIfInBounds i none)
    | none => (.delete s, slots)

/-- The changes for the stored elements one after the other, and then for what is still in the
slots. -/
def handOut : Array (Option α) → List (α × Option Nat) → List (Change α)
  | slots, [] => (slots.toList.filterMap id).map .add
  | slots, found :: rest =>
    let (change, left) := settle slots found
    change :: handOut left rest

/-- The changes that turn `stored` into `incoming`: updates and deletions in the order of the stored
elements, then additions in sorted order. -/
def changes (cmp : α → α → Ordering) (incoming stored : List α) : List (Change α) :=
  let xs := sorted cmp incoming
  let (found, _) := partners cmp xs (Array.replicate xs.size false) stored
  handOut (xs.map some) found

end Tenancy.Matching
