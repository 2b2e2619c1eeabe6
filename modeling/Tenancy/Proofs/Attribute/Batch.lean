import Mathlib.Data.List.Nodup
import Mathlib.Data.List.Perm.Subperm
import Tenancy.Attribute.Store

/-!
# Saving by id

Attributes are saved by id: one whose id is there already takes the place of the one that has it,
and any other goes to the end. So ids stay distinct whatever is saved, and a batch does what it says
exactly if the ids that it saves are distinct: what is new stands at the end in its order, and what
is overwritten stands where it stood.
-/

namespace Tenancy.Attribute

/-- The ids of a list of attributes. -/
def ids (attributes : List Attribute) : List (Option Uuid) := attributes.map (·.id)

/-- Saves attributes one after the other. -/
def saveAll (saved kept : List Attribute) : List Attribute := saved.foldl (fun l a => save a l) kept

theorem ids_append (l l' : List Attribute) : ids (l ++ l') = ids l ++ ids l' := List.map_append

theorem mem_ids {a : Attribute} {l : List Attribute} (h : a ∈ l) : a.id ∈ ids l :=
  List.mem_map.mpr ⟨a, h, rfl⟩

/-! ## One attribute -/

theorem save_new {a : Attribute} {l : List Attribute} (h : a.id ∉ ids l) : save a l = l ++ [a] := by
  induction l with
  | nil => rfl
  | cons b l ih =>
    obtain ⟨other, h⟩ := not_or.mp (mt List.mem_cons.mpr h)
    rw [save, if_neg (Ne.symm other), ih h]
    rfl

theorem save_known {a b : Attribute} {before after : List Attribute} (first : a.id ∉ ids before)
    (same : b.id = a.id) : save a (before ++ b :: after) = before ++ a :: after := by
  induction before with
  | nil => rw [List.nil_append, save, if_pos same, List.nil_append]
  | cons c before ih =>
    obtain ⟨other, first⟩ := not_or.mp (mt List.mem_cons.mpr first)
    rw [List.cons_append, save, if_neg (Ne.symm other), ih first]
    rfl

/-- What saving does to the ids. -/
theorem ids_save (a : Attribute) (l : List Attribute) :
    ids (save a l) = if a.id ∈ ids l then ids l else ids l ++ [a.id] := by
  split
  · next known =>
    induction l with
    | nil => cases known
    | cons b l ih =>
      by_cases same : b.id = a.id
      · rw [save, if_pos same]
        exact congrArg (· :: ids l) same.symm
      · rw [save, if_neg same]
        have further : a.id ∈ ids l := (List.mem_cons.mp known).resolve_left (Ne.symm same)
        exact congrArg (b.id :: ·) (ih further)
  · next new =>
    rw [save_new new, ids_append]
    rfl

theorem nodup_save {a : Attribute} {l : List Attribute} (h : (ids l).Nodup) :
    (ids (save a l)).Nodup := by
  rw [ids_save]
  split
  · exact h
  · next new =>
    rw [← List.concat_eq_append]
    exact h.concat new

theorem mem_save_self (a : Attribute) (l : List Attribute) : a ∈ save a l := by
  induction l with
  | nil => exact List.mem_singleton.mpr rfl
  | cons b l ih =>
    rw [save]
    split
    · exact List.mem_cons_self
    · exact List.mem_cons_of_mem _ ih

theorem mem_save_of_ne {a b : Attribute} {l : List Attribute} (hb : b ∈ l) (other : b.id ≠ a.id) :
    b ∈ save a l := by
  induction l with
  | nil => cases hb
  | cons c l ih =>
    rw [save]
    rcases List.mem_cons.mp hb with rfl | hb
    · rw [if_neg other]
      exact List.mem_cons_self
    · split
      · exact List.mem_cons_of_mem _ hb
      · exact List.mem_cons_of_mem _ (ih hb)

/-- If ids are distinct, saving leaves no other attribute with the same id. -/
theorem of_mem_save {a b : Attribute} {l : List Attribute} (h : (ids l).Nodup)
    (hb : b ∈ save a l) : b = a ∨ b ∈ l ∧ b.id ≠ a.id := by
  induction l with
  | nil => exact .inl (List.mem_singleton.mp hb)
  | cons c l ih =>
    obtain ⟨first, rest⟩ := List.nodup_cons.mp h
    rw [save] at hb
    split at hb
    · next same =>
      rcases List.mem_cons.mp hb with rfl | hb
      · exact .inl rfl
      · refine .inr ⟨List.mem_cons_of_mem _ hb, fun again => first ?_⟩
        show c.id ∈ ids l
        rw [same, ← again]
        exact mem_ids hb
    · next other =>
      rcases List.mem_cons.mp hb with rfl | hb
      · exact .inr ⟨List.mem_cons_self, other⟩
      · exact (ih rest hb).imp_right fun ⟨hb, ne⟩ => ⟨List.mem_cons_of_mem _ hb, ne⟩

/-! ## Several attributes -/

theorem saveAll_append (saved saved' kept : List Attribute) :
    saveAll (saved ++ saved') kept = saveAll saved' (saveAll saved kept) := List.foldl_append

theorem saveAll_nodup {saved kept : List Attribute} (h : (ids kept).Nodup) :
    (ids (saveAll saved kept)).Nodup := by
  induction saved generalizing kept with
  | nil => exact h
  | cons a saved ih => exact ih (nodup_save h)

/-- Ids that are not there are put at the end as they first appear. -/
theorem ids_saveAll (saved kept : List Attribute) :
    ids (saveAll saved kept) =
      ids kept ++ ((ids saved).filter fun i => i ∉ ids kept).eraseDups := by
  induction saved generalizing kept with
  | nil => exact (List.append_nil _).symm
  | cons a saved ih =>
    show ids (saveAll saved (save a kept)) = _ ++ ((a.id :: ids saved).filter _).eraseDups
    rw [ih, ids_save]
    split
    · next known => rw [List.filter_cons_of_neg (by simpa using known)]
    · next new =>
      -- From here on the id is there, which is to drop its later appearances.
      have further : ((ids saved).filter fun i => i ∉ ids kept ++ [a.id]) =
          ((ids saved).filter fun i => i ∉ ids kept).filter fun i => !i == a.id := by
        rw [List.filter_filter]
        refine List.filter_congr fun i _ => ?_
        by_cases same : i = a.id <;> simp [same]
      rw [List.filter_cons_of_pos (by simpa using new), List.eraseDups_cons, further,
        List.append_assoc, List.singleton_append]

theorem mem_ids_saveAll {saved kept : List Attribute} {i : Option Uuid} :
    i ∈ ids (saveAll saved kept) ↔ i ∈ ids kept ∨ i ∈ ids saved := by
  rw [ids_saveAll, List.mem_append, List.mem_eraseDups, List.mem_filter, decide_eq_true_iff]
  by_cases known : i ∈ ids kept <;> simp [known]

/-- What is left was saved, or it was there before and nothing was saved under its id. -/
theorem of_mem_saveAll {a : Attribute} {saved kept : List Attribute} (h : (ids kept).Nodup)
    (ha : a ∈ saveAll saved kept) : a ∈ saved ∨ a ∈ kept ∧ a.id ∉ ids saved := by
  induction saved generalizing kept with
  | nil => exact .inr ⟨ha, List.not_mem_nil⟩
  | cons b saved ih =>
    rcases ih (nodup_save h) ha with later | ⟨here, unsaved⟩
    · exact .inl (List.mem_cons_of_mem _ later)
    · rcases of_mem_save h here with rfl | ⟨before, other⟩
      · exact .inl List.mem_cons_self
      · refine .inr ⟨before, fun saved_too => ?_⟩
        rcases List.mem_cons.mp saved_too with same | later
        · exact other same
        · exact unsaved later

theorem mem_saveAll_of_kept {a : Attribute} {saved kept : List Attribute} (ha : a ∈ kept)
    (unsaved : a.id ∉ ids saved) : a ∈ saveAll saved kept := by
  induction saved generalizing kept with
  | nil => exact ha
  | cons b saved ih =>
    obtain ⟨other, rest⟩ := not_or.mp (mt List.mem_cons.mpr unsaved)
    exact ih (mem_save_of_ne ha other) rest

/-- The only attribute that is saved under an id stays. -/
theorem mem_saveAll_of_once {a : Attribute} {saved kept : List Attribute} (ha : a ∈ saved)
    (once : (ids saved).count a.id ≤ 1) : a ∈ saveAll saved kept := by
  obtain ⟨before, after, rfl⟩ := List.append_of_mem ha
  have counts : (ids (before ++ a :: after)).count a.id =
      (ids before).count a.id + ((ids after).count a.id + 1) := by
    rw [ids_append, List.count_append]
    exact congrArg _ List.count_cons_self
  have last : a.id ∉ ids after := List.count_eq_zero.mp (by omega)
  rw [saveAll_append]
  show a ∈ saveAll after (save a (saveAll before kept))
  exact mem_saveAll_of_kept (mem_save_self a _) last

theorem mem_saveAll_of_distinct {a : Attribute} {saved kept : List Attribute}
    (distinct : (ids saved).Nodup) (ha : a ∈ saved) : a ∈ saveAll saved kept :=
  mem_saveAll_of_once ha (List.nodup_iff_count_le_one.mp distinct a.id)

/-- Saving under known ids changes no ids. -/
theorem ids_saveAll_known {saved kept : List Attribute} (known : ids saved ⊆ ids kept) :
    ids (saveAll saved kept) = ids kept := by
  have nothing : ((ids saved).filter fun i => i ∉ ids kept) = [] :=
    List.filter_eq_nil_iff.mpr fun i hi => by simpa using known hi
  rw [ids_saveAll, nothing, List.eraseDups_nil, List.append_nil]

/-- Attributes with new and distinct ids go to the end. -/
theorem saveAll_new {saved kept : List Attribute} (h : (ids kept ++ ids saved).Nodup) :
    saveAll saved kept = kept ++ saved := by
  induction saved generalizing kept with
  | nil => exact (List.append_nil kept).symm
  | cons a saved ih =>
    have new : a.id ∉ ids kept := fun ha =>
      List.disjoint_of_nodup_append h ha List.mem_cons_self
    show saveAll saved (save a kept) = _
    have rest : (ids (kept ++ [a]) ++ ids saved).Nodup := by
      rw [ids_append, List.append_assoc]
      exact h
    rw [save_new new, ih rest, List.append_assoc]
    rfl

/-- Attributes that have the ids of kept ones take their places. -/
theorem saveAll_known {saved kept : List Attribute} (before after : List Attribute)
    (same : ids kept = ids saved) (h : (ids before ++ ids kept).Nodup) :
    saveAll saved (before ++ (kept ++ after)) = before ++ (saved ++ after) := by
  induction saved generalizing kept before with
  | nil =>
    rw [List.map_eq_nil_iff.mp same]
    rfl
  | cons a saved ih =>
    cases kept with
    | nil => cases same
    | cons b kept =>
      obtain ⟨known, same⟩ : b.id = a.id ∧ ids kept = ids saved := List.cons.inj same
      have distinct : (ids before ++ a.id :: ids kept).Nodup := by
        rw [← known]
        exact h
      have first : a.id ∉ ids before := fun ha =>
        List.disjoint_of_nodup_append distinct ha List.mem_cons_self
      have rest : (ids (before ++ [a]) ++ ids kept).Nodup := by
        rw [ids_append, List.append_assoc]
        exact distinct
      have placed := ih (before ++ [a]) same rest
      show saveAll saved (save a (before ++ b :: (kept ++ after))) = _
      rw [save_known first known]
      rwa [List.append_assoc, List.append_assoc] at placed

/-! ## Batches -/

namespace Batch

variable {batch : Batch} {stored : List Attribute}

/-- The attributes that a batch does not remove. -/
def kept (batch : Batch) (stored : List Attribute) : List Attribute :=
  stored.filter fun a => !batch.removed.any fun r => r.id = a.id

theorem apply_eq : batch.apply stored = saveAll batch.saved (batch.kept stored) := rfl

theorem nodup_kept (h : (ids stored).Nodup) : (ids (batch.kept stored)).Nodup :=
  h.sublist (List.filter_sublist.map _)

theorem nodup_apply (h : (ids stored).Nodup) : (ids (batch.apply stored)).Nodup :=
  saveAll_nodup (nodup_kept h)

/-- A batch that saves new attributes and overwrites all that it keeps, under distinct ids, leaves
what was overwritten in its place and what is new after it. -/
theorem apply_of_distinct {new updated : List Attribute} (saved : batch.saved = new ++ updated)
    (same : ids (batch.kept stored) = ids updated) (distinct : (ids batch.saved).Nodup) :
    batch.apply stored = updated ++ new := by
  rw [saved, ids_append] at distinct
  have first : (ids (batch.kept stored) ++ ids new).Nodup := by
    rw [same]
    exact List.nodup_append_comm.mp distinct
  have second : (ids [] ++ ids (batch.kept stored)).Nodup :=
    first.sublist (List.sublist_append_left _ _)
  rw [apply_eq, saved, saveAll_append, saveAll_new first]
  exact saveAll_known [] new same second

/-- If the ids that a batch saves are not distinct, fewer attributes are left than were saved. -/
theorem apply_short (stored_distinct : (ids stored).Nodup)
    (covered : ∀ i ∈ ids (batch.kept stored), i ∈ ids batch.saved)
    (clash : ¬ (ids batch.saved).Nodup) : (batch.apply stored).length < batch.saved.length := by
  by_contra long
  have distinct : (ids (batch.apply stored)).Nodup := nodup_apply stored_distinct
  have within : ids (batch.apply stored) ⊆ ids batch.saved := by
    intro i hi
    rcases mem_ids_saveAll.mp hi with hi | hi
    · exact covered i hi
    · exact hi
  have enough : (ids batch.saved).length ≤ (ids (batch.apply stored)).length := by
    unfold ids
    rw [List.length_map, List.length_map]
    omega
  have perm := (distinct.subperm within).perm_of_length_le enough
  exact clash (perm.nodup_iff.mp distinct)

end Batch

end Tenancy.Attribute
