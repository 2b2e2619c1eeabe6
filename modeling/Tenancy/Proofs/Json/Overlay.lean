import Mathlib.Data.List.Nodup
import Tenancy.Proofs.Json.Padding

/-!
# Laying a value over another one

Where a record has defaults, an object gives some of its fields and leaves the others as they are. A
form says which names and values are known, without regard to codecs. A codec overlays a base value
if it reads exactly the values that fit a form, and what is then written is what is written for the
base, with the given parts in place of its own. A strict record whose fields may all be missing does
so if the codec of each field does and no field is written from what another one sets.
-/

namespace Tenancy.Json

/-! ## Overlaid values -/

mutual

/-- A value laid over another one: of two objects the first keeps its members, and those that the
second has too are overlaid; otherwise the second one counts. -/
def overlaid : Json → Json → Json
  | .obj base, .obj given => .obj (overlaidMembers given base)
  | _, given => given

/-- The members of an object, overlaid by those that are given. -/
def overlaidMembers (given : List (String × Json)) : List (String × Json) → List (String × Json)
  | [] => []
  | (k, base) :: rest =>
    match given.lookup k with
    | some j => (k, overlaid base j) :: overlaidMembers given rest
    | none => (k, base) :: overlaidMembers given rest

end

/-- The value of one member after overlaying. -/
def laid (given : List (String × Json)) (k : String) (base : Json) : Json :=
  match given.lookup k with
  | some j => overlaid base j
  | none => base

theorem laid_absent {given : List (String × Json)} {k : String} (absent : k ∉ given.map (·.1))
    (base : Json) : laid given k base = base := by
  have none : given.lookup k = none := by
    rw [List.lookup_eq_none_iff]
    intro m hm
    rw [bne_iff_ne]
    rintro rfl
    exact absent (List.mem_map_of_mem hm)
  rw [laid, none]

theorem laid_cons_self (given : List (String × Json)) (k : String) (j base : Json) :
    laid ((k, j) :: given) k base = overlaid base j := by
  rw [laid, List.lookup_cons_self]

theorem laid_cons_other {given : List (String × Json)} {k name : String} (other : name ≠ k)
    (j base : Json) : laid ((k, j) :: given) name base = laid given name base := by
  rw [laid, List.lookup_cons, beq_false_of_ne other]
  rfl

theorem overlaidMembers_eq (given base : List (String × Json)) :
    overlaidMembers given base = base.map fun m => (m.1, laid given m.1 m.2) := by
  induction base with
  | nil => simp only [overlaidMembers, List.map_nil]
  | cons m base ih =>
    obtain ⟨k, b⟩ := m
    simp only [overlaidMembers, laid, ih, List.map_cons]
    split <;> rfl

/-! ## Forms -/

/-- What a value may look like. -/
inductive Form where
  | text
  | flag
  /-- A number below a limit. -/
  | count (limit : Nat)
  | oneOf (names : List String)
  /-- An object without other names than these. -/
  | group (names : List String) (field : String → Form)

/-- An object with the given fields. -/
def Form.section (fields : List (String × Form)) : Form :=
  .group (fields.map (·.1)) fun k => (fields.lookup k).getD .text

namespace Form

/-- Whether a value is of the form: every name is known and every part has its type. -/
def fits : Form → Json → Bool
  | .text, .str _ => true
  | .flag, .bool _ => true
  | .count limit, .num (.int n) => 0 ≤ n && n < limit
  | .oneOf names, .str name => names.contains name
  | .group names field, .obj ms => ms.all fun m => names.contains m.1 && (field m.1).fits m.2
  | _, _ => false

/-- Whether a value is in the notation that is meant: where the form has a group there is an object
that gives no name twice, and one of several names is not spelt as an object. -/
def proper : Form → Json → Bool
  | .oneOf _, .obj _ => false
  | .group names field, .obj ms => (ms.map (·.1)).Nodup &&
      ms.all fun m => !names.contains m.1 || (field m.1).proper m.2
  | .group _ _, _ => false
  | _, _ => true

theorem fits_count_iff {limit : Nat} {n : Int} :
    (Form.count limit).fits (.num (.int n)) = true ↔ 0 ≤ n ∧ n < limit := by
  simp [fits]

theorem fits_oneOf_iff {names : List String} {name : String} :
    (Form.oneOf names).fits (.str name) = true ↔ name ∈ names := by
  simp [fits]

theorem fits_group_iff {names : List String} {field : String → Form} {ms : List (String × Json)} :
    (Form.group names field).fits (.obj ms) = true ↔
      ∀ m ∈ ms, m.1 ∈ names ∧ (field m.1).fits m.2 = true := by
  simp [fits]

theorem proper_group_iff {names : List String} {field : String → Form} {j : Json} :
    (Form.group names field).proper j = true ↔ ∃ ms, j = .obj ms ∧ (ms.map (·.1)).Nodup ∧
      ∀ m ∈ ms, m.1 ∈ names → (field m.1).proper m.2 = true := by
  cases j with
  | obj ms => simp [proper, or_iff_not_imp_left]
  | _ => simp [proper]

end Form

variable {α σ τ : Type} {form : Form}

/-- The codec reads exactly the values of a form, each as laid over a base value. -/
structure Codec.Overlays (c : Codec α) (form : Form) (base : α) : Prop where
  takes : ∀ j origin, form.proper j = true → form.fits j = true →
    ∃ v, c.decode origin (.ofJson j) = .ok v ∧ c.encode v = overlaid (c.encode base) j
  refuses : ∀ j origin, form.proper j = true → form.fits j = false →
    ∃ e, c.decode origin (.ofJson j) = .error e

/-! ## Leaves -/

namespace Codec

variable {c : Codec α}

theorem string_overlays (base : String) : Codec.string.Overlays .text base where
  takes := by
    intro j origin _ fits
    cases j with
    | str s => exact ⟨s, rfl, rfl⟩
    | _ => cases fits
  refuses := by
    intro j origin _ unfit
    cases j with
    | str s => cases unfit
    | _ => exact ⟨_, rfl⟩

theorem bool_overlays (base : Bool) : Codec.bool.Overlays .flag base where
  takes := by
    intro j origin _ fits
    cases j with
    | bool b => exact ⟨b, rfl, rfl⟩
    | _ => cases fits
  refuses := by
    intro j origin _ unfit
    cases j with
    | bool b => cases unfit
    | _ => exact ⟨_, rfl⟩

theorem decodeInt_without {wanted : String} {least greatest n : Int}
    (outside : ¬ (least ≤ n ∧ n ≤ greatest)) : decodeInt wanted least greatest
      (.num (.good (.int n))) = .error (.wrongValue (.num (.int n)) wanted) :=
  if_neg outside

theorem Counts.overlays {limit : Nat} {wanted : String} {number : α → Nat} {make : Nat → α}
    (h : c.Counts limit wanted number make) (base : α) : c.Overlays (.count limit) base where
  takes := by
    intro j origin _ fits
    cases j with
    | num n =>
      cases n with
      | int n =>
        obtain ⟨low, high⟩ := Form.fits_count_iff.mp fits
        obtain ⟨k, rfl⟩ := Int.eq_ofNat_of_zero_le low
        have small : k < limit := by exact_mod_cast high
        refine ⟨make k, h.decode_of_lt small origin, ?_⟩
        rw [h.writes, h.writes, h.number_make k small]
        rfl
      | real _ => cases fits
    | _ => cases fits
  refuses := by
    intro j origin _ unfit
    rw [h.reads]
    cases j with
    | num n =>
      cases n with
      | int n =>
        have outside : ¬ (0 ≤ n ∧ n ≤ (limit - 1 : Int)) := by
          rintro ⟨low, high⟩
          have fits : (Form.count limit).fits (.num (.int n)) = true :=
            Form.fits_count_iff.mpr ⟨low, by omega⟩
          rw [unfit] at fits
          cases fits
        refine ⟨.wrongValue (.num (.int n)) wanted, ?_⟩
        show (decodeInt wanted 0 _ (.num (.good (.int n)))).map _ = _
        rw [decodeInt_without outside]
        rfl
      | real _ => exact ⟨_, rfl⟩
    | _ => exact ⟨_, rfl⟩

theorem choice_decode_str [BEq α] {variants : List (String × α)} (origin : Origin) (name : String) :
    (Codec.choice variants).decode origin (.str (.good name)) = variant? variants name := by
  cases origin <;> rfl

theorem choice_overlays [BEq α] {variants : List (String × α)}
    (named : ∀ x ∈ variants, variants.find? (fun y => y.1 == x.1) = some x ∧
      variants.find? (fun y => y.2 == x.2) = some x) (base : α) :
    (Codec.choice variants).Overlays (.oneOf (variants.map (·.1))) base where
  takes := by
    intro j origin _ fits
    cases j with
    | str name =>
      obtain ⟨x, hx, rfl⟩ := List.mem_map.mp (Form.fits_oneOf_iff.mp fits)
      obtain ⟨by_name, by_value⟩ := named x hx
      refine ⟨x.2, ?_, ?_⟩
      · show (Codec.choice variants).decode origin (.str (.good x.1)) = _
        rw [choice_decode_str, variant?, by_name]
      · simp [choice, by_value, overlaid]
    | _ => cases fits
  refuses := by
    intro j origin no_object unfit
    cases j with
    | str name =>
      have none : (variants.find? fun y => y.1 == name) = none := by
        rw [List.find?_eq_none]
        intro x hx same
        have fits : (Form.oneOf (variants.map (·.1))).fits (.str x.1) = true :=
          Form.fits_oneOf_iff.mpr (List.mem_map_of_mem hx)
        rw [eq_of_beq same, unfit] at fits
        cases fits
      refine ⟨.unknownVariant name (variants.map (·.1)), ?_⟩
      show (Codec.choice variants).decode origin (.str (.good name)) = _
      rw [choice_decode_str, variant?, none]
    | obj ms => cases no_object
    | _ => cases origin <;> exact ⟨_, rfl⟩

end Codec

/-! ## Fields -/

namespace Record

variable {r : Record σ} {field : String → Form} {n : Nat} {f : Field σ} {fs : List (Field σ)}

/-- What is written for each field. -/
def writes (r : Record σ) (s : σ) : List (Option Json) := r.fields.map (·.write s)

/-- The field in a place of the table may be missing, is read if it fits its form, and is then written
as laid over the blank record's, and the others as before. -/
structure Lays (r : Record σ) (field : String → Form) (n : Nat) (f : Field σ) : Prop where
  optional : f.optional = true
  takes : ∀ j origin, (field f.name).proper j = true → (field f.name).fits j = true →
    ∃ set, f.read origin (.ofJson j) = .ok set ∧
      ∀ s, r.writes (set s) = (r.writes s).set n ((f.write r.blank).map (overlaid · j))
  refuses : ∀ j origin, (field f.name).proper j = true → (field f.name).fits j = false →
    ∃ e, f.read origin (.ofJson j) = .error e

/-- All fields from a place on do so. -/
inductive Laid (r : Record σ) (field : String → Form) : Nat → List (Field σ) → Prop
  | nil {n : Nat} : Laid r field n []
  | cons {n : Nat} {f : Field σ} {fs : List (Field σ)} (lays : Lays r field n f)
      (rest : Laid r field (n + 1) fs) : Laid r field n (f :: fs)

theorem Laid.defaulted {name : String} {c : Codec τ} {get : σ → τ} {set : τ → σ → σ}
    (overlays : c.Overlays (field name) (get r.blank))
    (alone : ∀ v s, r.writes (set v s) = (r.writes s).set n (some (c.encode v)))
    (rest : Laid r field (n + 1) fs) : Laid r field n (.defaulted name c get set :: fs) := by
  refine .cons ⟨rfl, fun j origin proper fits => ?_, fun j origin proper unfit => ?_⟩ rest
  · obtain ⟨v, read, written⟩ := overlays.takes j origin proper fits
    refine ⟨set v, ?_, fun s => ?_⟩
    · show (c.decode origin (.ofJson j)).map set = _
      rw [read]
      rfl
    · rw [alone v s, written]
      rfl
  · obtain ⟨e, refused⟩ := overlays.refuses j origin proper unfit
    refine ⟨e, ?_⟩
    show (c.decode origin (.ofJson j)).map set = _
    rw [refused]
    rfl

theorem Laid.lays (laid : Laid r field n fs) {i : Nat} (h : fs[i]? = some f) :
    Lays r field (n + i) f := by
  induction laid generalizing i with
  | nil => cases h
  | @cons n g fs lays rest ih =>
    cases i with
    | zero =>
      obtain rfl : g = f := Option.some.inj h
      exact lays
    | succ i =>
      rw [← Nat.add_assoc, Nat.add_right_comm]
      exact ih h

theorem writes_getElem? {i : Nat} (h : r.fields[i]? = some f) (s : σ) :
    (r.writes s)[i]? = some (f.write s) := by
  rw [writes, List.getElem?_map, h]
  rfl

/-- What a laid field sets is written for it and for no other. -/
theorem Lays.written (lays : Lays r field n f) (here : r.fields[n]? = some f)
    (nodup : r.names.Nodup) {j : Json} (origin : Origin) (proper : (field f.name).proper j = true)
    (fits : (field f.name).fits j = true) : ∃ set, f.read origin (.ofJson j) = .ok set ∧
      ∀ s, ∀ g ∈ r.fields, g.write (set s) =
        if g.name = f.name then (f.write r.blank).map (overlaid · j) else g.write s := by
  obtain ⟨set, read, sets⟩ := lays.takes j origin proper fits
  refine ⟨set, read, fun s g hg => ?_⟩
  by_cases same : g.name = f.name
  · obtain rfl : g = f := List.inj_on_of_nodup_map nodup hg (List.mem_of_getElem? here) same
    have after : (r.writes (set s))[n]? = some (g.write (set s)) := writes_getElem? here (set s)
    have within : n < (r.writes s).length := by
      rw [writes, List.length_map]
      exact (List.getElem?_eq_some_iff.mp here).1
    rw [sets s, List.getElem?_set_self within] at after
    rw [if_pos rfl]
    exact (Option.some.inj after).symm
  · obtain ⟨i, hi⟩ := List.mem_iff_getElem?.mp hg
    have after : (r.writes (set s))[i]? = some (g.write (set s)) := writes_getElem? hi (set s)
    have apart : n ≠ i := by
      rintro rfl
      rw [here] at hi
      exact same (congrArg Field.name (Option.some.inj hi)).symm
    rw [sets s, List.getElem?_set_ne apart, writes_getElem? hi] at after
    rw [if_neg same]
    exact (Option.some.inj after).symm

/-! ## Members -/

variable {origin : Origin} {seen : List String} {acc : σ} {ms : List (String × Json)}

/-- Members that all fit are read, and then each field is written as laid over what was there. -/
theorem readMembers_takes (nodup : r.names.Nodup) (fields : Laid r field 0 r.fields)
    (once : (ms.map (·.1)).Nodup) (new : ∀ m ∈ ms, m.1 ∉ seen)
    (untouched : ∀ f ∈ r.fields, f.name ∈ ms.map (·.1) → f.write acc = f.write r.blank)
    (proper : ∀ m ∈ ms, m.1 ∈ r.names → (field m.1).proper m.2 = true)
    (fits : ∀ m ∈ ms, m.1 ∈ r.names ∧ (field m.1).fits m.2 = true) :
    ∃ v, r.readMembers origin .closed seen acc (membersOfJson ms) = .ok v ∧
      ∀ f ∈ r.fields, f.write v = (f.write acc).map (laid ms f.name) := by
  induction ms generalizing seen acc with
  | nil =>
    refine ⟨acc, ?_, fun f hf => ?_⟩
    · have nothing : missing r.fields seen = .ok () := by
        have present : (r.fields.find? fun f => !f.optional && !seen.contains f.name) = none := by
          rw [List.find?_eq_none]
          intro f hf
          obtain ⟨i, hi⟩ := List.mem_iff_getElem?.mp hf
          simp [(fields.lays hi).optional]
        simp only [missing, present]
      simp [membersOfJson, readMembers, Ending.inObject, guardFlaw, nothing, bind, Except.bind, pure,
        Except.pure]
    · have same : laid [] f.name = id := rfl
      rw [same, Option.map_id, id]
  | cons m ms ih =>
    obtain ⟨k, j⟩ := m
    obtain ⟨known, fit⟩ := fits _ List.mem_cons_self
    obtain ⟨f, hf, rfl⟩ := List.mem_map.mp known
    obtain ⟨i, hi⟩ := List.mem_iff_getElem?.mp hf
    obtain ⟨other, once⟩ := List.nodup_cons.mp once
    obtain ⟨set, read, sets⟩ := (fields.lays hi).written (by rwa [Nat.zero_add]) nodup origin
      (proper _ List.mem_cons_self known) fit
    have new' : ∀ m ∈ ms, m.1 ∉ f.name :: seen := by
      intro m hm old
      rcases List.mem_cons.mp old with same | old
      · have again : m.1 ∈ ms.map (·.1) := List.mem_map_of_mem hm
        exact other (same ▸ again)
      · exact new m (List.mem_cons_of_mem _ hm) old
    have untouched' : ∀ g ∈ r.fields, g.name ∈ ms.map (·.1) →
        g.write (set acc) = g.write r.blank := by
      intro g hg given
      have apart : g.name ≠ f.name := fun same => other (same ▸ given)
      rw [sets acc g hg, if_neg apart]
      exact untouched g hg (List.mem_cons_of_mem _ given)
    obtain ⟨v, result, written⟩ := ih once new' untouched'
      (fun m hm => proper m (List.mem_cons_of_mem _ hm)) fun m hm => fits m (List.mem_cons_of_mem _ hm)
    refine ⟨v, ?_, fun g hg => ?_⟩
    · rw [membersOfJson, readMembers_field nodup hf (new _ List.mem_cons_self), read]
      exact result
    · rw [written g hg, sets acc g hg]
      by_cases same : g.name = f.name
      · -- No later member has this name, so what was set stays.
        obtain rfl : g = f := List.inj_on_of_nodup_map nodup hg hf same
        have start : g.write acc = g.write r.blank := untouched g hg List.mem_cons_self
        have stays : laid ms g.name = id := funext fun base => laid_absent other base
        have here : laid ((g.name, j) :: ms) g.name = (overlaid · j) :=
          funext fun base => laid_cons_self ms g.name j base
        rw [if_pos rfl, start, stays, here, Option.map_id, id]
      · have there : laid ((f.name, j) :: ms) g.name = laid ms g.name :=
          funext fun base => laid_cons_other same j base
        rw [if_neg same, there]

/-- A member that does not fit is refused, whatever goes before it. -/
theorem readMembers_refuses (strict : r.strict = true) (nodup : r.names.Nodup)
    (fields : Laid r field 0 r.fields)
    (proper : ∀ m ∈ ms, m.1 ∈ r.names → (field m.1).proper m.2 = true)
    (unfit : ¬ ∀ m ∈ ms, m.1 ∈ r.names ∧ (field m.1).fits m.2 = true) :
    ∃ e, r.readMembers origin .closed seen acc (membersOfJson ms) = .error e := by
  induction ms generalizing seen acc with
  | nil => exact absurd (fun m hm => (List.not_mem_nil hm).elim) unfit
  | cons m ms ih =>
    obtain ⟨k, j⟩ := m
    by_cases known : k ∈ r.names
    · obtain ⟨f, hf, rfl⟩ := List.mem_map.mp known
      obtain ⟨i, hi⟩ := List.mem_iff_getElem?.mp hf
      have lays := fields.lays hi
      by_cases old : f.name ∈ seen
      · exact ⟨_, readMembers_again nodup hf old⟩
      · rw [membersOfJson, readMembers_field nodup hf old]
        cases fit : (field f.name).fits j with
        | true =>
          obtain ⟨set, read, _⟩ := lays.takes j origin (proper _ List.mem_cons_self known) fit
          have later : ¬ ∀ m ∈ ms, m.1 ∈ r.names ∧ (field m.1).fits m.2 = true := fun fits =>
            unfit (List.forall_mem_cons.mpr ⟨⟨known, fit⟩, fits⟩)
          rw [read]
          exact ih (fun m hm => proper m (List.mem_cons_of_mem _ hm)) later
        | false =>
          obtain ⟨e, refused⟩ := lays.refuses j origin (proper _ List.mem_cons_self known) fit
          rw [refused]
          exact ⟨e, rfl⟩
    · exact ⟨_, readMembers_refused strict known⟩

/-- What is written for a record whose fields are laid over those of another one. -/
theorem members_laid {v base : σ}
    (each : ∀ f ∈ r.fields, f.write v = (f.write base).map (laid ms f.name)) :
    r.members v = overlaidMembers ms (r.members base) := by
  rw [overlaidMembers_eq, members, members, List.map_filterMap]
  refine List.filterMap_congr fun f hf => ?_
  rw [each f hf, Option.map_map, Option.map_map]
  rfl

/-- A strict record overlays its blank one if its fields do. -/
theorem overlays (strict : r.strict = true) (nodup : r.names.Nodup)
    (fields : Laid r field 0 r.fields) : r.codec.Overlays (.group r.names field) r.blank where
  takes := by
    intro j origin meant fits
    obtain ⟨ms, rfl, once, proper⟩ := Form.proper_group_iff.mp meant
    obtain ⟨v, result, each⟩ := readMembers_takes nodup fields once
      (fun _ _ => List.not_mem_nil) (fun _ _ _ => rfl) proper (Form.fits_group_iff.mp fits)
    refine ⟨v, result, ?_⟩
    show Json.obj (r.members v) = .obj (overlaidMembers ms (r.members r.blank))
    rw [members_laid each]
  refuses := by
    intro j origin meant unfit
    obtain ⟨ms, rfl, _, proper⟩ := Form.proper_group_iff.mp meant
    refine readMembers_refuses strict nodup fields proper fun fits => ?_
    rw [Form.fits_group_iff.mpr fits] at unfit
    cases unfit

end Record

end Tenancy.Json
