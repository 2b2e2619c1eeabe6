import Tenancy.Json.Record

/-!
# Reading what was printed

A value that holds no numbers is read back from its compact text, whatever its strings are made of.
The text of a value says itself where it ends, so the value is found in front of any other text.
-/

namespace Tenancy.Json

/-! ## Strings -/

/-- What a character inside a string is read as. -/
def pieceOf (c : Char) : Piece :=
  if c.toNat < 32 ∧ c.toNat ∉ [8, 9, 10, 12, 13] then .unit c.toNat else .char c

theorem pieces_short {c e : Char} (stands : shortEscape? e = some c) (gs : List Glyph) :
    pieces (some '\\' :: some e :: gs) =
      (.char c :: (pieces gs).1, (pieces gs).2.1, (pieces gs).2.2) := by
  have other : e ≠ 'u' := by
    rintro rfl
    cases stands
  have found : (some e).bind shortEscape? = some c := stands
  -- What is left says that no code unit begins here.
  rw [pieces, found]
  all_goals simp [other]

theorem pieces_unit {n : Nat} {a b c d : Glyph} (spelt : hexUnit? a b c d = some n)
    (gs : List Glyph) :
    pieces (some '\\' :: some 'u' :: a :: b :: c :: d :: gs) =
      (.unit n :: (pieces gs).1, (pieces gs).2.1, (pieces gs).2.2) := by
  simp only [pieces, spelt]

theorem pieces_plain {c : Char} (quote : c ≠ '"') (slash : c ≠ '\\') (control : ¬ c.toNat < 32)
    (gs : List Glyph) :
    pieces (some c :: gs) = (.char c :: (pieces gs).1, (pieces gs).2.1, (pieces gs).2.2) := by
  rw [pieces.eq_def]
  split <;> simp_all

/-- The three ways in which a character is written inside a string. -/
inductive Quoted (c : Char) : Prop
  | short (e : Char) (text : quoteChar c = ['\\', e]) (stands : shortEscape? e = some c)
      (piece : pieceOf c = .char c)
  | unit (text : quoteChar c =
        ['\\', 'u', '0', '0', hexDigit (c.toNat / 16), hexDigit (c.toNat % 16)])
      (spelt : hexUnit? (some '0') (some '0') (some (hexDigit (c.toNat / 16)))
        (some (hexDigit (c.toNat % 16))) = some c.toNat) (piece : pieceOf c = .unit c.toNat)
  | plain (text : quoteChar c = [c]) (quote : c ≠ '"') (slash : c ≠ '\\')
      (control : ¬ c.toNat < 32) (piece : pieceOf c = .char c)

theorem quoted_control : ∀ n < 32, Quoted (Char.ofNat n) := by
  have each : ∀ n < 32,
      (['b', 't', 'n', 'f', 'r'].any fun e => quoteChar (Char.ofNat n) = ['\\', e] ∧
        shortEscape? e = some (Char.ofNat n) ∧ pieceOf (Char.ofNat n) = .char (Char.ofNat n)) ∨
      (quoteChar (Char.ofNat n) = ['\\', 'u', '0', '0', hexDigit ((Char.ofNat n).toNat / 16),
          hexDigit ((Char.ofNat n).toNat % 16)] ∧
        hexUnit? (some '0') (some '0') (some (hexDigit ((Char.ofNat n).toNat / 16)))
          (some (hexDigit ((Char.ofNat n).toNat % 16))) = some (Char.ofNat n).toNat ∧
        pieceOf (Char.ofNat n) = .unit (Char.ofNat n).toNat) := by
    decide +kernel
  intro n below
  rcases each n below with short | ⟨text, spelt, piece⟩
  · obtain ⟨e, _, stands⟩ := List.any_eq_true.mp short
    obtain ⟨text, stands, piece⟩ := of_decide_eq_true stands
    exact .short e text stands piece
  · exact .unit text spelt piece

theorem quoted (c : Char) : Quoted c := by
  by_cases control : c.toNat < 32
  · have same := quoted_control c.toNat control
    rwa [Char.ofNat_toNat] at same
  by_cases quote : c = '"'
  · subst quote
    exact .short '"' rfl rfl rfl
  by_cases slash : c = '\\'
  · subst slash
    exact .short '\\' rfl rfl rfl
  · refine .plain ?_ quote slash control (by simp [pieceOf, control])
    have high : c.toNat ≠ 8 ∧ c.toNat ≠ 9 ∧ c.toNat ≠ 10 ∧ c.toNat ≠ 12 ∧ c.toNat ≠ 13 := by omega
    simp [quoteChar, quote, slash, control, high]

theorem pieces_quoteChar (c : Char) (gs : List Glyph) :
    pieces ((quoteChar c).map some ++ gs) =
      (pieceOf c :: (pieces gs).1, (pieces gs).2.1, (pieces gs).2.2) := by
  cases quoted c with
  | short e text stands piece =>
    rw [text, piece]
    exact pieces_short stands gs
  | unit text spelt piece =>
    rw [text, piece]
    exact pieces_unit spelt gs
  | plain text quote slash control piece =>
    rw [text, piece]
    exact pieces_plain quote slash control gs

theorem pieces_quoted (cs : List Char) (gs : List Glyph) :
    pieces ((cs.flatMap quoteChar).map some ++ some '"' :: gs) = (cs.map pieceOf, .quote, gs) := by
  induction cs with
  | nil => rfl
  | cons c cs ih =>
    rw [List.flatMap_cons, List.map_append, List.append_assoc, pieces_quoteChar, ih]
    rfl

theorem joinPieces_cons (stop : Stop) (c : Char) (ps : List Piece) :
    joinPieces stop (pieceOf c :: ps) = (joinPieces stop ps).map (c :: ·) := by
  by_cases control : c.toNat < 32 ∧ c.toNat ∉ [8, 9, 10, 12, 13]
  · -- A control character is no surrogate.
    have trailing : isTrailing c.toNat = false := by simp [isTrailing]; omega
    have leading : isLeading c.toNat = false := by simp [isLeading]; omega
    rw [pieceOf, if_pos control, joinPieces.eq_def]
    simp [trailing, leading]
  · rw [pieceOf, if_neg control, joinPieces.eq_def]

theorem joinPieces_pieceOf (cs : List Char) : joinPieces .quote (cs.map pieceOf) = .ok cs := by
  induction cs with
  | nil => rfl
  | cons c cs ih =>
    rw [List.map_cons, joinPieces_cons, ih]
    rfl

theorem pieceOf_ne_stray (c : Char) : pieceOf c ≠ .stray := by
  unfold pieceOf
  split <;> simp

/-- A string is read back from between its quotes. -/
theorem stringToken_quoted (s : String) (gs : List Glyph) :
    stringToken ((s.toList.flatMap quoteChar).map some ++ some '"' :: gs) = (.good s, gs) := by
  have sound : (s.toList.map pieceOf).contains .stray = false := by
    simpa using fun c _ => pieceOf_ne_stray c
  simp only [stringToken, pieces_quoted, joinPieces_pieceOf, sound]
  simp

/-! ## Values -/

/-- A value without numbers. -/
inductive Numberless : Json → Prop
  | null : Numberless .null
  | bool (b : Bool) : Numberless (.bool b)
  | str (s : String) : Numberless (.str s)
  | arr (items : List Json) (each : ∀ v ∈ items, Numberless v) : Numberless (.arr items)
  | obj (members : List (String × Json)) (each : ∀ m ∈ members, Numberless m.2) :
      Numberless (.obj members)

attribute [simp] Numberless.null Numberless.bool Numberless.str

@[simp] theorem numberless_arr_iff {items : List Json} :
    Numberless (.arr items) ↔ ∀ v ∈ items, Numberless v :=
  ⟨fun h => by cases h with | arr _ each => exact each, .arr items⟩

@[simp] theorem numberless_obj_iff {members : List (String × Json)} :
    Numberless (.obj members) ↔ ∀ m ∈ members, Numberless m.2 :=
  ⟨fun h => by cases h with | obj _ each => exact each, .obj members⟩

theorem compactItems_eq (items : List Json) : compactItems items = items.map compact := by
  induction items with
  | nil => rfl
  | cons v items ih => rw [compactItems, ih, List.map_cons]

theorem compactMembers_eq (members : List (String × Json)) :
    compactMembers members = members.map fun m => quote m.1 ++ ":" ++ compact m.2 := by
  induction members with
  | nil => rfl
  | cons m members ih =>
    obtain ⟨k, v⟩ := m
    rw [compactMembers, ih, List.map_cons]

theorem itemsOfJson_eq (items : List Json) : itemsOfJson items = items.map Doc.ofJson := by
  induction items with
  | nil => rfl
  | cons v items ih => rw [itemsOfJson, ih, List.map_cons]

theorem membersOfJson_eq (members : List (String × Json)) :
    membersOfJson members = members.map fun m => (.text (.good m.1), Doc.ofJson m.2) := by
  induction members with
  | nil => rfl
  | cons m members ih =>
    obtain ⟨k, v⟩ := m
    rw [membersOfJson, ih, List.map_cons]

/-- The compact text of a value. -/
def glyphs (v : Json) : List Glyph := glyphsOf v.compact

/-- The text of a member. -/
def memberGlyphs (m : String × Json) : List Glyph :=
  some '"' :: (m.1.toList.flatMap quoteChar).map some ++ some '"' :: some ':' :: glyphs m.2

/-- Parts with a comma in front of each. -/
def trail (parts : List (List Glyph)) : List Glyph := parts.flatMap (some ',' :: ·)

theorem glyphsOf_append (s t : String) : glyphsOf (s ++ t) = glyphsOf s ++ glyphsOf t := by
  simp [glyphsOf]

theorem glyphsOf_commas (part : String) (parts : List String) :
    glyphsOf (",".intercalate (part :: parts)) = glyphsOf part ++ trail (parts.map glyphsOf) := by
  induction parts generalizing part with
  | nil => simp [trail]
  | cons next parts ih =>
    rw [String.intercalate_cons_cons, glyphsOf_append, glyphsOf_append, ih]
    simp [trail, glyphsOf]

theorem glyphsOf_quote (s : String) :
    glyphsOf (quote s) = some '"' :: (s.toList.flatMap quoteChar).map some ++ [some '"'] := by
  simp [quote, glyphsOf]

theorem glyphs_arr_cons (v : Json) (items : List Json) :
    glyphs (.arr (v :: items)) =
      some '[' :: (glyphs v ++ trail (items.map glyphs)) ++ [some ']'] := by
  rw [glyphs, compact, compactItems_eq, glyphsOf_append, glyphsOf_append, List.map_cons,
    glyphsOf_commas, List.map_map]
  rfl

theorem glyphs_obj_cons (m : String × Json) (members : List (String × Json)) :
    glyphs (.obj (m :: members)) =
      some '\x7b' :: (memberGlyphs m ++ trail (members.map memberGlyphs)) ++ [some '\x7d'] := by
  have whole : (fun m : String × Json => glyphsOf (quote m.1 ++ ":" ++ m.2.compact)) =
      memberGlyphs := by
    funext m
    rw [glyphsOf_append, glyphsOf_append, glyphsOf_quote]
    simp [memberGlyphs, glyphs, glyphsOf]
  have parts : (members.map fun m => quote m.1 ++ ":" ++ m.2.compact).map glyphsOf =
      members.map memberGlyphs := by
    rw [List.map_map, ← whole, Function.comp_def]
  rw [glyphs, compact, compactMembers_eq, glyphsOf_append, glyphsOf_append, List.map_cons,
    glyphsOf_commas, parts, congrFun whole m]
  rfl

/-- A value begins with a character that is no blank and closes nothing. -/
theorem glyphs_head (v : Json) (h : Numberless v) :
    ∃ c more, glyphs v = some c :: more ∧ isBlank c = false ∧ c ≠ ']' := by
  cases h with
  | null => exact ⟨'n', _, rfl, rfl, by decide⟩
  | bool b => cases b <;> exact ⟨_, _, rfl, rfl, by decide⟩
  | str s => exact ⟨'"', _, by rw [glyphs, compact, glyphsOf_quote]; rfl, rfl, by decide⟩
  | arr items each =>
    cases items with
    | nil => exact ⟨'[', _, rfl, rfl, by decide⟩
    | cons v items => exact ⟨'[', _, by rw [glyphs_arr_cons]; rfl, rfl, by decide⟩
  | obj members each =>
    cases members with
    | nil => exact ⟨'\x7b', _, rfl, rfl, by decide⟩
    | cons m members => exact ⟨'\x7b', _, by rw [glyphs_obj_cons]; rfl, rfl, by decide⟩

theorem glyphs_pos (v : Json) (h : Numberless v) : 0 < (glyphs v).length := by
  obtain ⟨c, more, text, _⟩ := glyphs_head v h
  rw [text]
  exact Nat.succ_pos _

/-- The value is found in front of any other text, with fuel for each of its characters. -/
def Reads (v : Json) : Prop :=
  ∀ fuel rest, (glyphs v).length ≤ fuel → readValue fuel (glyphs v ++ rest) = (.ofJson v, some rest)

theorem skipBlanks_of_head {c : Char} (gs : List Glyph) (h : isBlank c = false) :
    skipBlanks (some c :: gs) = some c :: gs := by
  rw [skipBlanks, if_neg (by simp [h])]

theorem trail_cons (part : List Glyph) (parts : List (List Glyph)) :
    trail (part :: parts) = some ',' :: (part ++ trail parts) := rfl

/-- Behind a comma, reading goes on as at the front. -/
theorem readItems_comma (fuel : Nat) {c : Char} (more : List Glyph) (plain : isBlank c = false)
    (opens : c ≠ ']') :
    readItems (fuel + 1) false (some ',' :: some c :: more) =
      readItems (fuel + 1) true (some c :: more) := by
  have comma : isBlank ',' = false := rfl
  rw [readItems, readItems, skipBlanks_of_head _ comma, skipBlanks_of_head _ plain]
  simp only [skipBlanks_of_head _ plain]
  simp [opens]

theorem readItems_item {v : Json} (numberless : Numberless v) (reads : Reads v) {fuel : Nat}
    (enough : (glyphs v).length ≤ fuel) (tail : List Glyph) {ds : List Doc} {ending : Ending}
    {more : Option (List Glyph)} (next : readItems fuel false tail = (ds, ending, more)) :
    readItems (fuel + 1) true (glyphs v ++ tail) = (.ofJson v :: ds, ending, more) := by
  obtain ⟨c, rest, text, plain, opens⟩ := glyphs_head v numberless
  have here := reads fuel tail enough
  rw [text, List.cons_append] at here ⊢
  rw [readItems, skipBlanks_of_head _ plain]
  simp only [here, next]
  simp [opens]

theorem readItems_all {v : Json} {items : List Json} (numberless : ∀ u ∈ v :: items, Numberless u)
    (each : ∀ u ∈ v :: items, Reads u) (fuel : Nat) (rest : List Glyph)
    (enough : (glyphs v ++ trail (items.map glyphs)).length < fuel) :
    readItems fuel true (glyphs v ++ (trail (items.map glyphs) ++ some ']' :: rest)) =
      ((v :: items).map .ofJson, .closed, some rest) := by
  induction items generalizing v fuel with
  | nil =>
    obtain ⟨fuel, rfl⟩ : ∃ k, fuel = k + 2 := ⟨fuel - 2, by
      have begun := glyphs_pos v (numberless v List.mem_cons_self)
      rw [List.length_append] at enough
      omega⟩
    rw [List.length_append] at enough
    exact readItems_item (numberless v List.mem_cons_self) (each v List.mem_cons_self) (by omega) _
      rfl
  | cons next items ih =>
    rw [List.length_append, List.map_cons, trail_cons, List.length_cons] at enough
    obtain ⟨fuel, rfl⟩ : ∃ k, fuel = k + 2 := ⟨fuel - 2, by omega⟩
    obtain ⟨c, more, text, plain, opens⟩ :=
      glyphs_head next (numberless next (List.mem_cons_of_mem _ List.mem_cons_self))
    have others := ih (fun u hu => numberless u (List.mem_cons_of_mem _ hu))
      (fun u hu => each u (List.mem_cons_of_mem _ hu)) (fuel + 1) (by omega)
    refine readItems_item (numberless v List.mem_cons_self) (each v List.mem_cons_self)
      (by omega) _ ?_
    rw [text] at others
    rw [List.map_cons, trail_cons, text, List.cons_append, List.cons_append, List.cons_append,
      readItems_comma fuel _ plain opens]
    simpa using others

/-- What a member's key and value are read as. -/
def memberDoc (m : String × Json) : Key × Doc := (.text (.good m.1), .ofJson m.2)

theorem readMembers_comma (fuel : Nat) (more : List Glyph) :
    readMembers (fuel + 1) false (some ',' :: some '"' :: more) =
      readMembers (fuel + 1) true (some '"' :: more) := by
  have comma : isBlank ',' = false := rfl
  have quote : isBlank '"' = false := rfl
  rw [readMembers, readMembers, skipBlanks_of_head _ comma, skipBlanks_of_head _ quote]
  simp only [skipBlanks_of_head _ quote]
  simp

theorem readMembers_member {m : String × Json} (reads : Reads m.2) {fuel : Nat}
    (enough : (memberGlyphs m).length ≤ fuel) (tail : List Glyph) {ms : List (Key × Doc)}
    {ending : Ending} {more : Option (List Glyph)}
    (next : readMembers fuel false tail = (ms, ending, more)) :
    readMembers (fuel + 1) true (memberGlyphs m ++ tail) = (memberDoc m :: ms, ending, more) := by
  have inside : (glyphs m.2).length ≤ (memberGlyphs m).length := by
    simp only [memberGlyphs, List.length_append, List.length_cons]
    omega
  have here := reads fuel tail (by omega)
  have quote : isBlank '"' = false := rfl
  have colon : isBlank ':' = false := rfl
  simp only [memberGlyphs, List.cons_append, List.append_assoc]
  rw [readMembers, skipBlanks_of_head _ quote]
  simp only [stringToken_quoted, skipBlanks_of_head _ colon, here, next]
  simp [memberDoc, Lexeme.skip]

theorem readMembers_all {m : String × Json} {members : List (String × Json)}
    (each : ∀ n ∈ m :: members, Reads n.2) (fuel : Nat) (rest : List Glyph)
    (enough : (memberGlyphs m ++ trail (members.map memberGlyphs)).length < fuel) :
    readMembers fuel true
        (memberGlyphs m ++ (trail (members.map memberGlyphs) ++ some '\x7d' :: rest)) =
      ((m :: members).map memberDoc, .closed, some rest) := by
  have begins (m : String × Json) : ∃ more, memberGlyphs m = some '"' :: more := ⟨_, rfl⟩
  induction members generalizing m fuel with
  | nil =>
    obtain ⟨fuel, rfl⟩ : ∃ k, fuel = k + 2 := ⟨fuel - 2, by
      obtain ⟨more, text⟩ := begins m
      rw [text, List.length_append, List.length_cons] at enough
      omega⟩
    rw [List.length_append] at enough
    exact readMembers_member (each m List.mem_cons_self) (by omega) _ rfl
  | cons next members ih =>
    rw [List.length_append, List.map_cons, trail_cons, List.length_cons] at enough
    obtain ⟨fuel, rfl⟩ : ∃ k, fuel = k + 2 := ⟨fuel - 2, by omega⟩
    obtain ⟨more, text⟩ := begins next
    have others := ih (fun n hn => each n (List.mem_cons_of_mem _ hn)) (fuel + 1) (by omega)
    refine readMembers_member (each m List.mem_cons_self) (by omega) _ ?_
    rw [text] at others
    rw [List.map_cons, trail_cons, text, List.cons_append, List.cons_append, List.cons_append,
      readMembers_comma fuel]
    simpa using others

theorem Reads.of_succ {v : Json} (h : Numberless v)
    (reads : ∀ fuel rest, (glyphs v).length ≤ fuel + 1 →
      readValue (fuel + 1) (glyphs v ++ rest) = (.ofJson v, some rest)) : Reads v := by
  intro fuel rest enough
  have begun := glyphs_pos v h
  obtain ⟨fuel, rfl⟩ : ∃ k, fuel = k + 1 := ⟨fuel - 1, by omega⟩
  exact reads fuel rest enough

theorem Numberless.reads {v : Json} (h : Numberless v) : Reads v := by
  induction h with
  | null => exact .of_succ .null fun _ _ _ => rfl
  | bool b =>
    refine .of_succ (.bool b) fun _ _ _ => ?_
    cases b <;> rfl
  | str s =>
    refine .of_succ (.str s) fun fuel rest _ => ?_
    have quote : isBlank '"' = false := rfl
    rw [glyphs, compact, glyphsOf_quote]
    simp only [List.cons_append, List.append_assoc, List.nil_append]
    rw [readValue, skipBlanks_of_head _ quote]
    simp [stringToken_quoted, ofLexeme, Doc.ofJson, Lexeme.skip]
  | arr items each ih =>
    refine .of_succ (.arr items each) fun fuel rest enough => ?_
    have bracket : isBlank '[' = false := rfl
    cases items with
    | nil =>
      obtain ⟨fuel, rfl⟩ : ∃ k, fuel = k + 1 := ⟨fuel - 1, by
        have brackets : (glyphs (.arr [])).length = 2 := rfl
        omega⟩
      rfl
    | cons v items =>
      rw [glyphs_arr_cons] at enough ⊢
      simp only [List.cons_append, List.length_cons, List.length_append, List.append_assoc,
        List.length_nil, List.nil_append] at enough ⊢
      have inside := readItems_all each ih fuel rest (by rw [List.length_append]; omega)
      rw [readValue, skipBlanks_of_head _ bracket]
      simp [inside, Doc.ofJson, itemsOfJson_eq]
  | obj members each ih =>
    refine .of_succ (.obj members each) fun fuel rest enough => ?_
    have brace : isBlank '\x7b' = false := rfl
    cases members with
    | nil =>
      obtain ⟨fuel, rfl⟩ : ∃ k, fuel = k + 1 := ⟨fuel - 1, by
        have braces : (glyphs (.obj [])).length = 2 := rfl
        omega⟩
      rfl
    | cons m members =>
      rw [glyphs_obj_cons] at enough ⊢
      simp only [List.cons_append, List.length_cons, List.length_append, List.append_assoc,
        List.length_nil, List.nil_append] at enough ⊢
      have inside := readMembers_all ih fuel rest (by rw [List.length_append]; omega)
      rw [readValue, skipBlanks_of_head _ brace]
      simp [inside, Doc.ofJson, membersOfJson_eq, memberDoc]

/-- A text that was printed is read as the value, and nothing is left over. -/
theorem ofGlyphs_compact {v : Json} (h : Numberless v) :
    Doc.ofGlyphs (glyphsOf v.compact) = (.ofJson v, false) := by
  have whole := h.reads (2 * (glyphs v).length + 2) [] (by omega)
  rw [List.append_nil] at whole
  rw [glyphs] at whole
  simp only [Doc.ofGlyphs, whole]
  rfl

/-- Reading from the compact text of a value is reading from its document. -/
theorem readText_numberless {α : Type} (c : Codec α) {v : Json} (h : Numberless v) :
    c.readText v.compact = c.decode .text (.ofJson v) := by
  unfold Codec.readText Codec.read
  rw [ofGlyphs_compact h]
  show (c.decode .text (.ofJson v) >>= fun v => _) = _
  cases c.decode .text (.ofJson v) <;> rfl

theorem readText_compact {v : Json} (h : Numberless v) :
    Codec.value.readText v.compact = Doc.toJson depthLimit (.ofJson v) :=
  readText_numberless Codec.value h

/-! ## Records without numbers -/

section Records

variable {σ τ : Type} {c : Codec τ} {name : String}

/-- Nothing that is written in this way holds numbers. -/
def Codec.Numberless (c : Codec τ) : Prop := ∀ v, (c.encode v).Numberless

/-- What is written for the field holds no numbers. -/
def Field.Numberless (f : Field σ) : Prop := ∀ v j, f.write v = some j → j.Numberless

theorem Codec.string_numberless : Codec.string.Numberless := .str

theorem Codec.choice_numberless [BEq τ] (variants : List (String × τ)) :
    (Codec.choice variants).Numberless := fun _ => .str _

theorem Codec.Numberless.list (h : c.Numberless) : (Codec.list c).Numberless := by
  intro vs
  refine .arr _ fun j hj => ?_
  obtain ⟨v, _, rfl⟩ := List.mem_map.mp hj
  exact h v

theorem Codec.Numberless.dict (h : c.Numberless) : (Codec.dict c).Numberless := by
  intro d
  refine .obj _ fun m hm => ?_
  obtain ⟨entry, _, rfl⟩ := List.mem_map.mp hm
  exact h entry.2

theorem Field.required_numberless (h : c.Numberless) {get : σ → τ} {set : τ → σ → σ} :
    (Field.required name c get set).Numberless := by
  rintro v j ⟨⟩
  exact h _

theorem Field.defaulted_numberless (h : c.Numberless) {get : σ → τ} {set : τ → σ → σ} :
    (Field.defaulted name c get set).Numberless := by
  rintro v j ⟨⟩
  exact h _

theorem Field.omitted_numberless (h : c.Numberless) {get : σ → τ} {set : τ → σ → σ}
    {absent : τ → Bool} : (Field.omitted name c get set absent).Numberless := by
  intro v j written
  simp only [Field.omitted] at written
  split at written
  · cases written
  · cases written
    exact h _

theorem Field.present_numberless (h : c.Numberless) {get : σ → Option τ}
    {set : Option τ → σ → σ} : (Field.present name c get set).Numberless := by
  intro v j written
  obtain ⟨u, _, rfl⟩ := Option.map_eq_some_iff.mp written
  exact h u

theorem Field.Numberless.mayEnd {f : Field σ} (h : f.Numberless) : f.mayEnd.Numberless := h

theorem Record.numberless {r : Record σ} (h : ∀ f ∈ r.fields, f.Numberless) :
    r.codec.Numberless := by
  intro v
  refine .obj _ fun m hm => ?_
  obtain ⟨f, hf, written⟩ := List.mem_filterMap.mp hm
  obtain ⟨j, wrote, rfl⟩ := Option.map_eq_some_iff.mp written
  exact h f hf v j wrote

end Records

end Tenancy.Json
