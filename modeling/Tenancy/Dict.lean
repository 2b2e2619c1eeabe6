/-!
# Dictionaries

A dictionary keeps its entries under strictly increasing keys, so that equal dictionaries are equal
values and every listing comes out in key order.
-/

namespace Tenancy

/-- Entries under strictly increasing keys. -/
structure Dict (α : Type) where
  entries : List (String × α)
  ordered : entries.Pairwise fun a b => a.1 < b.1

namespace Dict

variable {α β : Type}

instance [DecidableEq α] : DecidableEq (Dict α) := fun a b =>
  decidable_of_iff (a.entries = b.entries)
    ⟨fun h => by cases a; cases b; simp_all, fun h => by rw [h]⟩

instance [Repr α] : Repr (Dict α) where
  reprPrec d n := reprPrec d.entries n

/-- No entries. -/
def empty : Dict α := ⟨[], List.Pairwise.nil⟩

instance : Inhabited (Dict α) := ⟨empty⟩

instance : EmptyCollection (Dict α) := ⟨empty⟩

/-- The entries with one of them put in its place, replacing one under the same key. -/
def place (key : String) (value : α) : List (String × α) → List (String × α)
  | [] => [(key, value)]
  | e :: rest =>
    if key < e.1 then (key, value) :: e :: rest
    else if key = e.1 then (key, value) :: rest
    else e :: place key value rest

theorem mem_place {key : String} {value : α} {es : List (String × α)} {e : String × α}
    (h : e ∈ place key value es) : e = (key, value) ∨ e ∈ es := by
  induction es with
  | nil => simpa [place] using h
  | cons x rest ih =>
    simp only [place] at h
    split at h
    · simpa using h
    · split at h
      · rcases List.mem_cons.1 h with h | h <;> simp [h]
      · rcases List.mem_cons.1 h with h | h
        · simp [h]
        · rcases ih h with h | h <;> simp [h]

theorem place_ordered (key : String) (value : α) {es : List (String × α)}
    (h : es.Pairwise fun a b => a.1 < b.1) :
    (place key value es).Pairwise fun a b => a.1 < b.1 := by
  induction es with
  | nil => simp [place]
  | cons x rest ih =>
    have hx := List.pairwise_cons.1 h
    simp only [place]
    split
    · rename_i hlt
      refine List.pairwise_cons.2 ⟨fun e he => ?_, h⟩
      rcases List.mem_cons.1 he with he | he
      · exact he ▸ hlt
      · exact String.lt_trans hlt (hx.1 e he)
    · split
      · rename_i _ heq
        refine List.pairwise_cons.2 ⟨fun e he => ?_, hx.2⟩
        exact heq ▸ hx.1 e he
      · rename_i hlt hne
        refine List.pairwise_cons.2 ⟨fun e he => ?_, ih hx.2⟩
        rcases mem_place he with he | he
        · subst he
          rcases Decidable.em (x.1 < key) with hlt' | hlt'
          · exact hlt'
          · exact absurd (String.le_antisymm (String.not_lt.1 hlt') (String.not_lt.1 hlt)) hne
        · exact hx.1 e he

/-- Binds a key, replacing what it was bound to. -/
def insert (d : Dict α) (key : String) (value : α) : Dict α :=
  ⟨place key value d.entries, place_ordered key value d.ordered⟩

/-- The value bound to a key. -/
def get? (d : Dict α) (key : String) : Option α :=
  (d.entries.find? fun e => e.1 == key).map (·.2)

/-- Whether nothing is bound. -/
def isEmpty (d : Dict α) : Bool := d.entries.isEmpty

/-- How many keys are bound. -/
def size (d : Dict α) : Nat := d.entries.length

/-- The entries inserted one after the other. -/
def ofList (entries : List (String × α)) : Dict α :=
  entries.foldl (fun d e => d.insert e.1 e.2) empty

end Dict

end Tenancy
