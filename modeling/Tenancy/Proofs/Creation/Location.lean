import Mathlib.Data.List.DropRight
import Tenancy.Creation

/-!
# Where the id of a new thing is found

A receipt names the new thing at the end of its location: what stands there behind the last slash,
once the slashes that end the text are taken off. If nothing does, the body names it. A text ends in
one part at most, so a receipt names one thing at most.
-/

namespace Tenancy

/-! ## The last part of a text -/

/-- A text ends in a part: slashes at most stand behind it, and it stands behind a slash or at the
front. It is not empty and holds no slash. -/
structure EndsIn (text part : List Char) : Prop where
  full : part ≠ []
  slashless : '/' ∉ part
  cut : ∃ front n, text = front ++ part ++ List.replicate n '/' ∧
    (front = [] ∨ ∃ path, front = path ++ ['/'])

section Parts

variable {text part part' front : List Char}

theorem EndsIn.after_slash (full : part ≠ []) (slashless : '/' ∉ part) (path : List Char) (n : Nat) :
    EndsIn (path ++ '/' :: part ++ List.replicate n '/') part :=
  ⟨full, slashless, path ++ ['/'], n, by simp, .inr ⟨path, rfl⟩⟩

/-- The text without the slashes at its end. -/
abbrev unslashedEnd (text : List Char) : List Char := text.rdropWhile (· = '/')

/-- What stands behind the last slash of a text. -/
abbrev behindSlash (text : List Char) : List Char := text.rtakeWhile (· ≠ '/')

theorem unslashedEnd_append (text : List Char) (n : Nat) :
    unslashedEnd (text ++ List.replicate n '/') = unslashedEnd text := by
  induction n with
  | zero => rw [List.replicate_zero, List.append_nil]
  | succ n ih =>
    rw [List.replicate_succ', ← List.append_assoc]
    exact (List.rdropWhile_concat_pos _ _ _ (by decide)).trans ih

theorem unslashedEnd_of_part (full : part ≠ []) (slashless : '/' ∉ part) :
    unslashedEnd (front ++ part) = front ++ part := by
  obtain ⟨init, c, rfl⟩ := (List.eq_nil_or_concat part).resolve_left full
  have other : c ≠ '/' := fun same => slashless (by simp [same])
  rw [List.concat_eq_append, ← List.append_assoc]
  exact List.rdropWhile_concat_neg _ _ _ (by simpa using other)

theorem behindSlash_of_part (slashless : '/' ∉ part)
    (behind : front = [] ∨ ∃ path, front = path ++ ['/']) : behindSlash (front ++ part) = part := by
  have kept : ∀ c ∈ part.reverse, (decide (c ≠ '/')) = true := by
    intro c hc
    simp only [ne_eq, decide_eq_true_eq]
    rintro rfl
    exact slashless (List.mem_reverse.mp hc)
  unfold behindSlash List.rtakeWhile
  rw [List.reverse_append, List.takeWhile_append_of_pos kept]
  rcases behind with rfl | ⟨path, rfl⟩ <;> simp

theorem EndsIn.eq_behindSlash (h : EndsIn text part) : behindSlash (unslashedEnd text) = part := by
  obtain ⟨front, n, rfl, behind⟩ := h.cut
  rw [unslashedEnd_append, unslashedEnd_of_part h.full h.slashless,
    behindSlash_of_part h.slashless behind]

/-- A text ends in one part at most. -/
theorem EndsIn.unique (h : EndsIn text part) (h' : EndsIn text part') : part = part' :=
  h.eq_behindSlash.symm.trans h'.eq_behindSlash

/-- A text that is not made of slashes ends in the part behind the last slash that counts. -/
theorem endsIn_behindSlash (full : behindSlash (unslashedEnd text) ≠ []) :
    EndsIn text (behindSlash (unslashedEnd text)) := by
  let front := (unslashedEnd text).rdropWhile fun c => c ≠ '/'
  let slashes := text.rtakeWhile fun c => c = '/'
  have counted : unslashedEnd text = front ++ behindSlash (unslashedEnd text) :=
    (List.rdropWhile_append_rtakeWhile ..).symm
  have whole : text = unslashedEnd text ++ slashes := (List.rdropWhile_append_rtakeWhile ..).symm
  have behind : slashes = List.replicate slashes.length '/' := by
    refine List.eq_replicate_of_mem fun c hc => ?_
    simpa using List.mem_rtakeWhile_imp hc
  refine ⟨full, fun slash => by simpa using List.mem_rtakeWhile_imp slash, front, slashes.length, ?_, ?_⟩
  · rw [← counted, ← behind]
    exact whole
  · rcases List.eq_nil_or_concat front with none | ⟨path, c, some⟩
    · exact .inl none
    · have last : ¬ (decide (c ≠ '/')) = true := by
        have stopped := List.rdropWhile_last_not (fun c => decide (c ≠ '/')) (unslashedEnd text)
          (show front ≠ [] by simp [some])
        have final : front.getLast (by simp [some]) = c := by simp [some]
        rwa [final] at stopped
      have slash : c = '/' := by simpa using last
      exact .inr ⟨path, by rw [some, slash, List.concat_eq_append]⟩

theorem endsIn_iff : EndsIn text part ↔ part ≠ [] ∧ behindSlash (unslashedEnd text) = part := by
  refine ⟨fun h => ⟨h.full, h.eq_behindSlash⟩, ?_⟩
  rintro ⟨full, rfl⟩
  exact endsIn_behindSlash full

/-- A text in which anything but slashes stands ends in a part. -/
theorem exists_endsIn {c : Char} (other : c ≠ '/') (stands : c ∈ text) : ∃ part, EndsIn text part := by
  have some : unslashedEnd text ≠ [] := fun none =>
    other (by simpa using List.rdropWhile_eq_nil_iff.mp none c stands)
  have last := List.rdropWhile_last_not _ _ some
  refine ⟨_, endsIn_behindSlash fun none => ?_⟩
  exact List.rtakeWhile_eq_nil_iff.mp none some (by simpa using last)

/-- The part in which a text ends reaches into what begins with a mark, or is the end of it behind a
slash. -/
theorem EndsIn.behind_mark {c : Char} {rest : List Char} (mark : c ≠ '/')
    (h : EndsIn (front ++ c :: rest) part) :
    c ∈ part ∨ ∃ before n, c :: rest = before ++ '/' :: part ++ List.replicate n '/' := by
  obtain ⟨front', n, cut, behind⟩ := h.cut
  rw [List.append_assoc] at cut
  rcases List.append_eq_append_iff.mp cut with ⟨m, rfl, rest'⟩ | ⟨m, _, rest'⟩
  · rcases List.eq_nil_or_concat m with rfl | ⟨before, d, rfl⟩
    · obtain ⟨d, part', rfl⟩ := List.exists_cons_of_ne_nil h.full
      exact .inl ((List.cons.inj rest').1 ▸ List.mem_cons_self)
    · rcases behind with none | ⟨path, same⟩
      · simp at none
      · rw [List.concat_eq_append, ← List.append_assoc] at same
        obtain rfl : d = '/' := by simpa using (List.append_inj' same rfl).2
        exact .inr ⟨before, n, by simpa using rest'⟩
  · rcases List.append_eq_append_iff.mp rest' with ⟨k, _, slashes⟩ | ⟨k, rfl, behind'⟩
    · have slash : c ∈ List.replicate n '/' := slashes ▸ by simp
      exact (mark (List.eq_of_mem_replicate slash)).elim
    · cases k with
      | nil =>
        have slash : c ∈ [] ++ List.replicate n '/' := behind' ▸ List.mem_cons_self
        exact (mark (List.eq_of_mem_replicate slash)).elim
      | cons d k => exact .inl ((List.cons.inj behind').1 ▸ by simp)

end Parts

/-! ## Receipts -/

namespace Receipt

variable {r : Receipt} {id id' : String}

/-- The body is an object whose field `id` is this text. -/
def States (r : Receipt) (id : String) : Prop :=
  ∃ members, r.body = some (.obj members) ∧ members.lookup "id" = some (.str id)

/-- The location ends in a part. -/
def Located (r : Receipt) : Prop :=
  ∃ location part, r.location = some location ∧ EndsIn location.toList part

/-- A receipt names an id by the end of its location, or else by its body. -/
inductive Names (r : Receipt) (id : String) : Prop
  | located {location : String} (given : r.location = some location)
      (ends : EndsIn location.toList id.toList) : Names r id
  | stated (unlocated : ¬ r.Located) (states : r.States id) : Names r id

theorem lastPart_toList (location : String) :
    (lastPart location).toList = behindSlash (unslashedEnd location.toList) := by
  simp [lastPart, List.rtakeWhile, List.rdropWhile]

theorem lastPart_eq_iff {location : String} (full : id ≠ "") :
    lastPart location = id ↔ EndsIn location.toList id.toList := by
  rw [endsIn_iff, ← lastPart_toList, String.toList_inj]
  simp [full]

theorem member?_obj (key : String) (members : List (String × Json)) :
    (Json.obj members).member? key = members.lookup key := by
  induction members with
  | nil => rfl
  | cons m members ih =>
    obtain ⟨k, v⟩ := m
    simp only [Json.member?] at ih ⊢
    by_cases same : k = key
    · simp [same]
    · have other : (key == k) = false := by simpa using Ne.symm same
      rw [List.lookup_cons, other, List.find?_cons_of_neg (by simpa using same)]
      exact ih

theorem bodyId?_iff : r.body.bind bodyId? = some id ↔ r.States id := by
  unfold States
  cases r.body with
  | none => simp
  | some body =>
    cases body with
    | obj members =>
      simp only [Option.bind_some, bodyId?, member?_obj, Option.bind_eq_some_iff, Option.some.injEq,
        Json.obj.injEq, exists_eq_left']
      constructor
      · rintro ⟨v, found, text⟩
        cases v <;> cases text
        exact found
      · exact fun found => ⟨_, found, rfl⟩
    | _ => simp [bodyId?, Json.member?]

/-- The id of a receipt is the one that it names. -/
theorem id?_iff : r.id? = some id ↔ r.Names id := by
  unfold id?
  cases hl : r.location with
  | none =>
    have unlocated : ¬ r.Located := by
      rintro ⟨location, part, given, _⟩
      rw [hl] at given
      cases given
    simp only [Option.map_none, Option.filter_none, Option.none_or, bodyId?_iff]
    refine ⟨.stated unlocated, fun h => ?_⟩
    cases h with
    | located given _ => rw [hl] at given; cases given
    | stated _ states => exact states
  | some location =>
    by_cases empty : lastPart location = ""
    · have unlocated : ¬ r.Located := by
        rintro ⟨location', part, given, ends⟩
        cases hl.symm.trans given
        refine ends.full ?_
        rw [← ends.eq_behindSlash, ← lastPart_toList, empty]
        rfl
      have dropped : (!("" : String).isEmpty) = false := rfl
      simp only [Option.map_some, empty, Option.filter_some, dropped, Bool.false_eq_true, if_false,
        Option.none_or, bodyId?_iff]
      refine ⟨.stated unlocated, fun h => ?_⟩
      cases h with
      | located given ends => exact (unlocated ⟨_, _, given, ends⟩).elim
      | stated _ states => exact states
    · have kept : (!(lastPart location).isEmpty) = true := by simpa using empty
      have ends := ((lastPart_eq_iff empty).mp rfl : EndsIn location.toList _)
      simp only [Option.map_some, Option.filter_some, kept, if_true, Option.some_or,
        Option.some.injEq]
      constructor
      · rintro rfl
        exact .located hl ends
      · intro h
        cases h with
        | located given ends' =>
          cases hl.symm.trans given
          exact String.toList_inj.mp (ends.unique ends')
        | stated unlocated _ => exact (unlocated ⟨_, _, hl, ends⟩).elim

theorem States.unique (h : r.States id) (h' : r.States id') : id = id' :=
  Option.some.inj ((bodyId?_iff.mpr h).symm.trans (bodyId?_iff.mpr h'))

theorem outcome_eq_ok {context : String} :
    r.outcome context = .ok id ↔ r.status.isSuccess = true ∧ r.id? = some id := by
  unfold Receipt.outcome
  cases r.status.isSuccess with
  | false => simp
  | true => cases r.id? <;> simp

end Receipt

end Tenancy
