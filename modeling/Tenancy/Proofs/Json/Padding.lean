import Mathlib.Data.List.Forall2
import Tenancy.Json.Record
import Tenancy.Proofs.Json.Reading

/-!
# Reading past what is not known

A value is read back from what was written for it, and also if the objects that stand for records
have grown: members under names that the record does not have may stand anywhere in them. Where such
objects are within a wire form is its shape. A codec is sound for a shape if it reads each value from
every padded form of what it writes. Soundness of the small codecs makes that of lists, dictionaries
and records; a record is walked along its table of fields, and each field either was written or has
the value that the blank record has.
-/

namespace Tenancy

namespace Dict

variable {α : Type}

theorem ext {d d' : Dict α} (same : d.entries = d'.entries) : d = d' := by
  cases d
  cases d'
  simpa using same

/-- An entry above all others is put behind them. -/
theorem insert_last {d : Dict α} {key : String} {value : α} (above : ∀ e ∈ d.entries, e.1 < key) :
    (d.insert key value).entries = d.entries ++ [(key, value)] := by
  have last : ∀ es : List (String × α), (∀ e ∈ es, e.1 < key) →
      place key value es = es ++ [(key, value)] := by
    intro es above
    induction es with
    | nil => rfl
    | cons e es ih =>
      have below := above e List.mem_cons_self
      have other : key ≠ e.1 := by
        rintro rfl
        exact String.lt_irrefl _ below
      rw [place, if_neg (String.lt_asymm below), if_neg other,
        ih fun e he => above e (List.mem_cons_of_mem _ he)]
      rfl
  exact last d.entries above

end Dict

namespace Json

/-- Where records stand within a wire form. -/
inductive Shape where
  | plain
  | list (item : Shape)
  | dict (entry : Shape)
  | struct (names : List String) (field : String → Shape)

/-- The members of one object stand in another one in their order, their values related by their
names, and all else there has other names. -/
inductive Interspersed (names : List String) (R : String → Json → Json → Prop) :
    List (String × Json) → List (String × Json) → Prop
  | nil : Interspersed names R [] []
  | keep {k : String} {j j' : Json} {ms ms' : List (String × Json)} (value : R k j j')
      (rest : Interspersed names R ms ms') : Interspersed names R ((k, j) :: ms) ((k, j') :: ms')
  | insert {k : String} {j : Json} {ms ms' : List (String × Json)} (unknown : k ∉ names)
      (rest : Interspersed names R ms ms') : Interspersed names R ms ((k, j) :: ms')

/-- A value with unknown members put into the objects that stand for records. -/
def Padded : Shape → Json → Json → Prop
  | .plain, j, j' => j' = j
  | .list s, j, j' => ∃ js js', j = .arr js ∧ j' = .arr js' ∧ List.Forall₂ (Padded s) js js'
  | .dict s, j, j' => ∃ ms ms', j = .obj ms ∧ j' = .obj ms' ∧
      List.Forall₂ (fun m m' => m'.1 = m.1 ∧ Padded s m.2 m'.2) ms ms'
  | .struct names field, j, j' => ∃ ms ms', j = .obj ms ∧ j' = .obj ms' ∧
      Interspersed names (fun k => Padded (field k)) ms ms'

variable {α σ τ : Type} {s : Shape} {ms ms' : List (String × Json)}

/-! ## Objects with more members -/

section Members

variable {names : List String} {R : String → Json → Json → Prop}

theorem Interspersed.of_nil (h : Interspersed names R [] ms') : ∀ m ∈ ms', m.1 ∉ names := by
  generalize hms : ([] : List (String × Json)) = ms at h
  induction h with
  | nil => simp
  | keep => cases hms
  | insert unknown _ ih =>
    intro m hm
    rcases List.mem_cons.mp hm with rfl | hm
    · exact unknown
    · exact ih hms m hm

theorem Interspersed.of_cons {k : String} {j : Json} (h : Interspersed names R ((k, j) :: ms) ms') :
    ∃ before j' after, ms' = before ++ (k, j') :: after ∧ (∀ m ∈ before, m.1 ∉ names) ∧ R k j j' ∧
      Interspersed names R ms after := by
  generalize hms : (k, j) :: ms = all at h
  induction h with
  | nil => cases hms
  | @keep _ _ j' _ after value rest =>
    cases hms
    exact ⟨[], j', after, rfl, by simp, value, rest⟩
  | @insert k' j₁ _ _ unknown _ ih =>
    obtain ⟨before, j', after, rfl, others, value, rest⟩ := ih hms
    refine ⟨(k', j₁) :: before, j', after, rfl, ?_, value, rest⟩
    intro m hm
    rcases List.mem_cons.mp hm with rfl | hm
    · exact unknown
    · exact others m hm

theorem Interspersed.refl (h : ∀ m ∈ ms, R m.1 m.2 m.2) : Interspersed names R ms ms := by
  induction ms with
  | nil => exact .nil
  | cons m ms ih =>
    exact .keep (h m List.mem_cons_self) (ih fun m hm => h m (List.mem_cons_of_mem _ hm))

end Members

/-! ## Skipping -/

mutual

theorem skip_ofJson : ∀ j : Json, (Doc.ofJson j).skip = none
  | .null => rfl
  | .bool _ => rfl
  | .num _ => rfl
  | .str _ => rfl
  | .arr items => by simp [Doc.ofJson, Doc.skip, skipItems_ofJson items, Ending.inSkippedList,
      Ending.inList]
  | .obj members => by simp [Doc.ofJson, Doc.skip, skipMembers_ofJson members,
      Ending.inSkippedObject, Ending.inObject]

theorem skipItems_ofJson : ∀ js : List Json, skipItems (itemsOfJson js) = none
  | [] => rfl
  | j :: js => by simp [itemsOfJson, skipItems, skip_ofJson j, skipItems_ofJson js]

theorem skipMembers_ofJson : ∀ ms : List (String × Json), skipMembers (membersOfJson ms) = none
  | [] => rfl
  | (_, j) :: ms => by
    simp [membersOfJson, skipMembers, Lexeme.skip, skip_ofJson j, skipMembers_ofJson ms]

end

/-! ## Sound codecs -/

/-- Every value is read from all padded forms of what is written for it. -/
structure Codec.Sound (c : Codec α) (s : Shape) : Prop where
  shaped : ∀ v, Padded s (c.encode v) (c.encode v)
  reads : ∀ v j origin, Padded s (c.encode v) j → c.decode origin (.ofJson j) = .ok v

/-- A sound codec that does not take null for a value. -/
structure Codec.Solid (c : Codec α) (s : Shape) : Prop extends Codec.Sound c s where
  null : ∀ origin, ∃ e, c.decode origin .null = .error e

namespace Codec

variable {c : Codec α}

/-- For a codec whose forms are not padded it is enough to read what was written. -/
theorem Solid.of_plain (reads : ∀ v origin, c.decode origin (.ofJson (c.encode v)) = .ok v)
    (null : ∀ origin, ∃ e, c.decode origin .null = .error e) : c.Solid .plain where
  shaped _ := rfl
  reads v j origin padded := by
    obtain rfl : j = c.encode v := padded
    exact reads v origin
  null := null

/-- What may be padded need not be. -/
theorem Solid.flat (h : c.Solid s) : c.Solid .plain :=
  .of_plain (fun v origin => h.reads v _ origin (h.shaped v)) h.null

theorem string_solid : Codec.string.Solid .plain :=
  .of_plain (fun _ _ => rfl) fun _ => ⟨_, rfl⟩

theorem bool_solid : Codec.bool.Solid .plain := .of_plain (fun _ _ => rfl) fun _ => ⟨_, rfl⟩

theorem decodeInt_within {wanted : String} {least greatest n : Int} (low : least ≤ n)
    (high : n ≤ greatest) : decodeInt wanted least greatest (.num (.good (.int n))) = .ok n :=
  if_pos ⟨low, high⟩

/-- A codec of counts, which are written as the numbers below a limit. -/
structure Counts (c : Codec α) (limit : Nat) (wanted : String) (number : α → Nat) (make : Nat → α) :
    Prop where
  writes : ∀ v, c.encode v = .num (.int (number v))
  reads : ∀ origin d, c.decode origin d =
    (decodeInt wanted 0 (limit - 1) d).map fun n => make n.toNat
  below : ∀ v, number v < limit
  number_make : ∀ n < limit, number (make n) = n
  make_number : ∀ v, make (number v) = v

theorem uint32_counts : Codec.uint32.Counts UInt32.size "u32" UInt32.toNat UInt32.ofNat where
  writes _ := rfl
  reads _ _ := rfl
  below v := v.toNat_lt
  number_make _ small := UInt32.toNat_ofNat_of_lt' small
  make_number _ := UInt32.ofNat_toNat

theorem uint64_counts : Codec.uint64.Counts UInt64.size "u64" UInt64.toNat UInt64.ofNat where
  writes _ := rfl
  reads _ _ := rfl
  below v := v.toNat_lt
  number_make _ small := UInt64.toNat_ofNat_of_lt' small
  make_number _ := UInt64.ofNat_toNat

section Counts

variable {limit : Nat} {wanted : String} {number : α → Nat} {make : Nat → α}

theorem Counts.decode_of_lt (h : c.Counts limit wanted number make) {n : Nat} (small : n < limit)
    (origin : Origin) : c.decode origin (.num (.good (.int n))) = .ok (make n) := by
  have low : (0 : Int) ≤ n := Int.natCast_nonneg n
  have high : (n : Int) ≤ limit - 1 := by omega
  rw [h.reads, decodeInt_within low high]
  rfl

theorem Counts.solid (h : c.Counts limit wanted number make) : c.Solid .plain := by
  refine .of_plain (fun v origin => ?_) fun origin => ⟨_, h.reads origin .null⟩
  rw [h.writes]
  show c.decode origin (.num (.good (.int (number v)))) = .ok v
  rw [h.decode_of_lt (h.below v), h.make_number]

end Counts

theorem uint32_solid : Codec.uint32.Solid .plain := uint32_counts.solid

theorem uint64_solid : Codec.uint64.Solid .plain := uint64_counts.solid

theorem int32_solid : Codec.int32.Solid .plain := by
  refine .of_plain (fun v origin => ?_) fun _ => ⟨_, rfl⟩
  show (decodeInt "i32" _ _ (.num (.good (.int v.toInt)))).map _ = _
  rw [decodeInt_within v.minValue_le_toInt v.toInt_le]
  simp [Except.map]

theorem choice_solid [BEq α] [LawfulBEq α] {variants : List (String × α)}
    (named : ∀ v, ∃ name, variants.find? (fun x => x.2 == v) = some (name, v) ∧
      variants.find? (fun x => x.1 == name) = some (name, v)) :
    (Codec.choice variants).Solid .plain := by
  refine .of_plain (fun v origin => ?_) fun origin => by cases origin <;> exact ⟨_, rfl⟩
  obtain ⟨name, written, read⟩ := named v
  cases origin <;>
    simp [choice, choiceInText, choiceInValue, choiceInLayers, written, Doc.ofJson, Lexeme.read,
      variant?, read, bind, Except.bind]

theorem parsed_solid {wanted : String} {write : α → String} {parse : String → Except String α}
    (parses : ∀ v, parse (write v) = .ok v) : (Codec.parsed wanted write parse).Solid .plain := by
  refine .of_plain (fun v origin => ?_) fun _ => ⟨_, rfl⟩
  simp [parsed, Doc.ofJson, Lexeme.read, parses, bind, Except.bind]

theorem option_decode {origin : Origin} {d : Doc} (h : d ≠ .null) :
    c.option.decode origin d = (c.decode origin d).map some := by
  cases d <;> first | rfl | exact absurd rfl h

theorem Solid.reads_some (h : c.Solid s) {v : α} {j : Json} (padded : Padded s (c.encode v) j)
    (origin : Origin) : c.option.decode origin (.ofJson j) = .ok (some v) := by
  have read := h.reads v j origin padded
  have other : Doc.ofJson j ≠ .null := by
    intro nothing
    obtain ⟨e, refused⟩ := h.null origin
    rw [nothing, refused] at read
    cases read
  rw [option_decode other, read]
  rfl

theorem Solid.option (h : c.Solid .plain) : c.option.Sound .plain where
  shaped _ := rfl
  reads v j origin padded := by
    obtain rfl : j = c.option.encode v := padded
    cases v with
    | none => rfl
    | some v => exact h.reads_some rfl origin

theorem decodeItems_padded (h : c.Sound s) {vs : List α} {js : List Json}
    (padded : List.Forall₂ (Padded s) (vs.map c.encode) js) (origin : Origin) :
    decodeItems c origin .closed (itemsOfJson js) = .ok vs := by
  induction vs generalizing js with
  | nil =>
    cases padded
    rfl
  | cons v vs ih =>
    cases padded with
    | cons first rest =>
      simp [itemsOfJson, decodeItems, h.reads v _ origin first, ih rest, bind, Except.bind, pure,
        Except.pure]

theorem list_solid (h : c.Sound s) : (Codec.list c).Solid (.list s) where
  shaped vs := by
    refine ⟨_, _, rfl, rfl, ?_⟩
    rw [List.forall₂_same]
    intro j hj
    obtain ⟨v, _, rfl⟩ := List.mem_map.mp hj
    exact h.shaped v
  reads vs j origin padded := by
    obtain ⟨_, js, same, rfl, each⟩ := padded
    cases same
    exact decodeItems_padded h each origin
  null _ := ⟨_, rfl⟩

/-- Entries that come in the order of a dictionary make it up again. -/
theorem decodeEntries_padded (h : c.Sound s) {acc d : Dict α} {es : List (String × α)}
    (split : d.entries = acc.entries ++ es)
    (padded : List.Forall₂ (fun e m => m.1 = e.1 ∧ Padded s (c.encode e.2) m.2) es ms)
    (origin : Origin) : decodeEntries c origin .closed acc (membersOfJson ms) = .ok d := by
  induction es generalizing acc ms with
  | nil =>
    cases padded
    obtain rfl : d = acc := Dict.ext (by simpa using split)
    rfl
  | cons e es ih =>
    cases padded with
    | @cons _ m _ _ first rest =>
      obtain ⟨k, j⟩ := m
      obtain ⟨rfl, padded⟩ := first
      have above : ∀ e' ∈ acc.entries, e'.1 < e.1 := by
        have ordered := d.ordered
        rw [split, List.pairwise_append] at ordered
        exact fun e' he => ordered.2.2 e' he e List.mem_cons_self
      have more : d.entries = (acc.insert e.1 e.2).entries ++ es := by
        rw [Dict.insert_last above, split]
        simp
      simp [membersOfJson, decodeEntries, Lexeme.read, h.reads e.2 _ origin padded,
        ih more rest, bind, Except.bind]

theorem dict_solid (h : c.Sound s) : (Codec.dict c).Solid (.dict s) where
  shaped d := by
    refine ⟨_, _, rfl, rfl, ?_⟩
    rw [List.forall₂_same]
    intro m hm
    obtain ⟨e, _, rfl⟩ := List.mem_map.mp hm
    exact ⟨rfl, h.shaped e.2⟩
  reads d j origin padded := by
    obtain ⟨_, ms, same, rfl, each⟩ := padded
    cases same
    rw [List.forall₂_map_left_iff] at each
    have split : d.entries = (.empty : Dict α).entries ++ d.entries := rfl
    exact decodeEntries_padded h split each origin
  null _ := ⟨_, rfl⟩

end Codec

/-! ## Fields -/

/-- Fields are filled in one after the other: `acc` is the record with all that went before, and what
is read for a field is what `put` takes over from the value. A field that was not written has that
value already. -/
inductive Restores (shape : String → Shape) : List (Field σ) → (σ → σ) → Prop
  | nil {acc : σ → σ} (whole : ∀ v, acc v = v) : Restores shape [] acc
  | cons {f : Field σ} {fs : List (Field σ)} {acc : σ → σ} (put : σ → σ → σ)
      (shaped : ∀ v j, f.write v = some j → Padded (shape f.name) j j)
      (reads : ∀ v j j' origin, f.write v = some j → Padded (shape f.name) j j' →
        f.read origin (.ofJson j') = .ok (put v))
      (unwritten : ∀ v, f.write v = none → f.optional = true ∧ put v (acc v) = acc v)
      (rest : Restores shape fs fun v => put v (acc v)) : Restores shape (f :: fs) acc

namespace Restores

variable {shape : String → Shape} {name : String} {fs : List (Field σ)} {acc : σ → σ} {f : Field σ}
  {c : Codec τ}

theorem required {get : σ → τ} {set : τ → σ → σ} (sound : c.Sound (shape name))
    (rest : Restores shape fs fun v => set (get v) (acc v)) :
    Restores shape (.required name c get set :: fs) acc := by
  refine .cons (fun v => set (get v)) ?_ ?_ ?_ rest
  · rintro v j written
    cases written
    exact sound.shaped (get v)
  · rintro v j j' origin written padded
    cases written
    simp [Field.required, Field.readWith, sound.reads _ _ origin padded, Except.map]
  · rintro v written
    cases written

theorem defaulted {get : σ → τ} {set : τ → σ → σ} (sound : c.Sound (shape name))
    (rest : Restores shape fs fun v => set (get v) (acc v)) :
    Restores shape (.defaulted name c get set :: fs) acc := by
  have like : Restores shape (.required name c get set :: fs) acc := required sound rest
  cases like with
  | cons put shaped reads _ rest =>
    refine .cons put shaped reads ?_ rest
    rintro v written
    cases written

theorem omitted {get : σ → τ} {set : τ → σ → σ} {absent : τ → Bool} {nothing : τ}
    (sound : c.Sound (shape name)) (only : ∀ t, absent t = true → t = nothing)
    (blank : ∀ v, set nothing (acc v) = acc v)
    (rest : Restores shape fs fun v => set (get v) (acc v)) :
    Restores shape (.omitted name c get set absent :: fs) acc := by
  refine .cons (fun v => set (get v)) ?_ ?_ ?_ rest
  · rintro v j written
    obtain rfl : j = c.encode (get v) := by simp_all [Field.omitted]
    exact sound.shaped (get v)
  · rintro v j j' origin written padded
    obtain rfl : j = c.encode (get v) := by simp_all [Field.omitted]
    simp [Field.omitted, Field.readWith, sound.reads _ _ origin padded, Except.map]
  · rintro v written
    have left : absent (get v) = true := by simpa [Field.omitted] using written
    refine ⟨rfl, ?_⟩
    show set (get v) (acc v) = acc v
    rw [only _ left]
    exact blank v

theorem present {get : σ → Option τ} {set : Option τ → σ → σ} (solid : c.Solid (shape name))
    (blank : ∀ v, set none (acc v) = acc v)
    (rest : Restores shape fs fun v => set (get v) (acc v)) :
    Restores shape (.present name c get set :: fs) acc := by
  refine .cons (fun v => set (get v)) ?_ ?_ ?_ rest
  · rintro v j written
    obtain ⟨u, _, rfl⟩ := Option.map_eq_some_iff.mp written
    exact solid.shaped u
  · rintro v j j' origin written padded
    obtain ⟨u, there, rfl⟩ := Option.map_eq_some_iff.mp written
    simp [Field.present, Field.readWith, solid.reads_some padded origin, there, Except.map]
  · rintro v written
    have nothing : get v = none := Option.map_eq_none_iff.mp written
    refine ⟨rfl, ?_⟩
    show set (get v) (acc v) = acc v
    rw [nothing]
    exact blank v

/-- Whether a list may end before a field does not matter to objects. -/
theorem short {short : Bool} (h : Restores shape (f :: fs) acc) :
    Restores shape ({ f with short := short } :: fs) acc := by
  cases h with
  | cons put shaped reads unwritten rest => exact .cons put shaped reads unwritten rest

end Restores

/-! ## Records -/

namespace Record

variable {r : Record σ} {shape : String → Shape} {v : σ} {origin : Origin} {seen : List String}

/-- The names of a record's fields. -/
def names (r : Record σ) : List String := r.fields.map (·.name)

/-- The members that are written for some fields. -/
def written (fs : List (Field σ)) (v : σ) : List (String × Json) :=
  fs.filterMap fun f => (f.write v).map fun j => (f.name, j)

section Members

variable {ending : Ending} {acc : σ} {rest : List (Key × Doc)} {d : Doc} {f : Field σ} {k : String}

theorem find_field (nodup : r.names.Nodup) (hf : f ∈ r.fields) :
    (r.fields.find? fun g => g.name == f.name) = some f := by
  obtain ⟨before, after, split⟩ := List.append_of_mem hf
  have others : ∀ g ∈ before, g.name ≠ f.name := by
    rw [names, split, List.map_append, List.map_cons, List.nodup_append] at nodup
    exact fun g hg => nodup.2.2 g.name (List.mem_map_of_mem hg) f.name List.mem_cons_self
  have skipped : (before.find? fun g => g.name == f.name) = none := by
    rw [List.find?_eq_none]
    intro g hg
    simpa using others g hg
  rw [split, List.find?_append, skipped]
  simp

theorem find_unknown (unknown : k ∉ r.names) : (r.fields.find? fun f => f.name == k) = none := by
  rw [List.find?_eq_none]
  intro f hf same
  exact unknown (List.mem_map.mpr ⟨f, hf, by simpa using same⟩)

theorem readMembers_field (nodup : r.names.Nodup) (hf : f ∈ r.fields) (new : f.name ∉ seen) :
    r.readMembers origin ending seen acc ((.text (.good f.name), d) :: rest) =
      f.read origin d >>= fun set =>
        r.readMembers origin ending (f.name :: seen) (set acc) rest := by
  simp [readMembers, Lexeme.read, find_field nodup hf, new, bind, Except.bind]

theorem readMembers_again (nodup : r.names.Nodup) (hf : f ∈ r.fields) (old : f.name ∈ seen) :
    r.readMembers origin ending seen acc ((.text (.good f.name), d) :: rest) =
      .error (.duplicateField f.name) := by
  simp [readMembers, Lexeme.read, find_field nodup hf, old, bind, Except.bind]

theorem readMembers_refused (strict : r.strict = true) (unknown : k ∉ r.names) :
    r.readMembers origin ending seen acc ((.text (.good k), d) :: rest) =
      .error (.unknownField k r.names) := by
  simp [readMembers, Lexeme.read, find_unknown unknown, strict, names, bind, Except.bind]

theorem readMembers_passed (lenient : r.strict = false) (unknown : k ∉ r.names) :
    r.readMembers origin ending seen acc ((.text (.good k), d) :: rest) =
      guardFlaw d.skip >>= fun _ => r.readMembers origin ending seen acc rest := by
  simp [readMembers, Lexeme.read, find_unknown unknown, lenient, bind, Except.bind]

end Members

theorem readMembers_unknown {before : List (String × Json)}
    (welcome : ∀ m ∈ before, r.strict = true → m.1 ∈ r.names)
    (unknown : ∀ m ∈ before, m.1 ∉ r.names) (acc : σ) :
    r.readMembers origin .closed seen acc (membersOfJson (before ++ ms)) =
      r.readMembers origin .closed seen acc (membersOfJson ms) := by
  induction before with
  | nil => rfl
  | cons m before ih =>
    obtain ⟨k, j⟩ := m
    have lenient : r.strict = false := Bool.eq_false_iff.mpr fun strict =>
      unknown _ List.mem_cons_self (welcome _ List.mem_cons_self strict)
    rw [List.cons_append, membersOfJson, readMembers_passed lenient (unknown _ List.mem_cons_self),
      skip_ofJson]
    exact ih (fun m hm => welcome m (List.mem_cons_of_mem _ hm))
      fun m hm => unknown m (List.mem_cons_of_mem _ hm)

/-- From the fields that are left, a record is read out of its members, whatever stands between
them; if the record is strict, nothing does. -/
theorem readMembers_restores (nodup : r.names.Nodup)
    (welcome : ∀ m ∈ ms, r.strict = true → m.1 ∈ r.names)
    {before fs : List (Field σ)} (split : r.fields = before ++ fs) {acc : σ → σ}
    (restores : Restores shape fs acc) (known : ∀ n ∈ seen, n ∈ before.map (·.name))
    (complete : ∀ f ∈ before, f.optional = false → f.name ∈ seen)
    (members : Interspersed r.names (fun k => Padded (shape k)) (written fs v) ms) :
    r.readMembers origin .closed seen (acc v) (membersOfJson ms) = .ok v := by
  -- `before` holds the fields that were passed, whose values are in `acc v`; of the names seen none is
  -- ahead, so no field is read twice.
  induction restores generalizing before seen ms with
  | nil whole =>
    have all : r.readMembers origin .closed seen v (membersOfJson (ms ++ [])) =
        r.readMembers origin .closed seen v (membersOfJson []) :=
      readMembers_unknown welcome members.of_nil v
    have nothing : missing r.fields seen = .ok () := by
      have present : (r.fields.find? fun f => !f.optional && !seen.contains f.name) = none := by
        rw [List.find?_eq_none, split, List.append_nil]
        intro f hf
        by_cases needed : f.optional = false
        · simp [complete f hf needed]
        · simp [needed]
      simp only [missing, present]
    rw [List.append_nil] at all
    rw [whole, all]
    simp [membersOfJson, readMembers, Ending.inObject, guardFlaw, nothing, bind, Except.bind, pure,
      Except.pure]
  | @cons f fs acc put shaped reads unwritten rest ih =>
    have split' : r.fields = (before ++ [f]) ++ fs := by simp [split]
    cases hf : f.write v with
    | none =>
      obtain ⟨optional, same⟩ := unwritten v hf
      have left : written (f :: fs) v = written fs v := by simp [written, hf]
      have known' : ∀ n ∈ seen, n ∈ (before ++ [f]).map (·.name) := by
        intro n hn
        simp [known n hn]
      have complete' : ∀ g ∈ before ++ [f], g.optional = false → g.name ∈ seen := by
        intro g hg needed
        rcases List.mem_append.mp hg with hg | hg
        · exact complete g hg needed
        · obtain rfl := List.mem_singleton.mp hg
          rw [optional] at needed
          cases needed
      rw [← same]
      exact ih welcome split' known' complete' (left ▸ members)
    | some j =>
      have left : written (f :: fs) v = (f.name, j) :: written fs v := by simp [written, hf]
      rw [left] at members
      obtain ⟨pad, j', ms', rfl, unknown, padded, members⟩ := members.of_cons
      have new : f.name ∉ seen := by
        intro old
        rw [names, split, List.map_append, List.map_cons, List.nodup_append] at nodup
        exact nodup.2.2 _ (known _ old) _ List.mem_cons_self rfl
      have known' : ∀ n ∈ f.name :: seen, n ∈ (before ++ [f]).map (·.name) := by
        intro n hn
        rcases List.mem_cons.mp hn with rfl | hn
        · simp
        · simp [known n hn]
      have complete' : ∀ g ∈ before ++ [f], g.optional = false → g.name ∈ f.name :: seen := by
        intro g hg needed
        rcases List.mem_append.mp hg with hg | hg
        · exact List.mem_cons_of_mem _ (complete g hg needed)
        · obtain rfl := List.mem_singleton.mp hg
          exact List.mem_cons_self
      rw [readMembers_unknown (fun m hm => welcome m (List.mem_append_left _ hm)) unknown]
      rw [membersOfJson, readMembers_field nodup (by simp [split]) new, reads v j j' origin hf padded]
      have welcome' : ∀ m ∈ ms', r.strict = true → m.1 ∈ r.names := fun m hm =>
        welcome m (List.mem_append_right _ (List.mem_cons_of_mem _ hm))
      exact ih welcome' split' known' complete' members

theorem written_shaped {fs : List (Field σ)} {acc : σ → σ} (restores : Restores shape fs acc) :
    ∀ m ∈ written fs v, Padded (shape m.1) m.2 m.2 := by
  induction restores with
  | nil => simp [written]
  | @cons f fs acc put shaped reads unwritten rest ih =>
    intro m hm
    obtain ⟨g, hg, there⟩ := List.mem_filterMap.mp hm
    obtain ⟨j, hj, rfl⟩ := Option.map_eq_some_iff.mp there
    rcases List.mem_cons.mp hg with rfl | hg
    · exact shaped v j hj
    · exact ih _ (List.mem_filterMap.mpr ⟨g, hg, there⟩)

/-- A record that passes over unknown names is read from all padded forms of its object. -/
theorem solid (lenient : r.strict = false) (nodup : r.names.Nodup)
    (restores : Restores shape r.fields fun _ => r.blank) :
    r.codec.Solid (.struct r.names shape) where
  shaped v := ⟨_, _, rfl, rfl, .refl (written_shaped restores)⟩
  reads v j origin padded := by
    obtain ⟨_, ms, same, rfl, members⟩ := padded
    cases same
    have split : r.fields = [] ++ r.fields := rfl
    have welcome : ∀ m ∈ ms, r.strict = true → m.1 ∈ r.names := by simp [lenient]
    exact readMembers_restores nodup welcome split restores (by simp) (by simp) members
  null _ := ⟨_, rfl⟩

/-- Any record is read from what was written for it. -/
theorem solid_plain (nodup : r.names.Nodup)
    (restores : Restores (fun _ => .plain) r.fields fun _ => r.blank) : r.codec.Solid .plain := by
  refine .of_plain (fun v origin => ?_) fun _ => ⟨_, rfl⟩
  have members : Interspersed r.names (fun _ => Padded .plain) (r.members v) (r.members v) :=
    .refl (written_shaped restores)
  have welcome : ∀ m ∈ r.members v, r.strict = true → m.1 ∈ r.names := by
    intro m hm _
    obtain ⟨f, hf, there⟩ := List.mem_filterMap.mp hm
    obtain ⟨j, _, rfl⟩ := Option.map_eq_some_iff.mp there
    exact List.mem_map_of_mem hf
  have split : r.fields = [] ++ r.fields := rfl
  exact readMembers_restores nodup welcome split restores (by simp) (by simp) members

end Record

end Json

end Tenancy
