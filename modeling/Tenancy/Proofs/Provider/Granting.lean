import Tenancy.Proofs.Json.Padding
import Tenancy.Provider.Login

/-!
# What grants a token

A grant is an object with one text as its token and at most one kind, which is a text or null; all else
in it is passed over. It may also stand as a list of the two.
-/

namespace Tenancy.Provider.Grant

open Json

variable {members : List (Key × Doc)} {ending : Ending} {g acc : Grant} {d : Doc} {k : String}

/-- The values that an object gives under a name. -/
def under (name : String) (members : List (Key × Doc)) : List Doc :=
  members.filterMap fun m =>
    match m.1 with
    | .text (.good k) => if k = name then some m.2 else none
    | _ => none

/-- A kind of token that is told, or left open by null. -/
inductive Kind : Doc → Option String → Prop
  | null : Kind .null none
  | text (kind : String) : Kind (.str (.good kind)) (some kind)

/-- The member has a name, and what the name stands for is looked at or can be passed over. -/
def Member (m : Key × Doc) : Prop :=
  ∃ k, m.1 = .text (.good k) ∧ (k ≠ "access_token" → k ≠ "token_type" → m.2.skip = none)

/-- A document that spells a grant. -/
inductive Spelt : Doc → Grant → Prop
  | object {members : List (Key × Doc)} {g : Grant} (each : ∀ m ∈ members, Member m)
    (token : under "access_token" members = [.str (.good g.accessToken)])
    (kind : under "token_type" members = [] ∧ g.tokenType = none ∨
      ∃ d, under "token_type" members = [d] ∧ Kind d g.tokenType) : Spelt (.obj members .closed) g
  | single (token : String) : Spelt (.arr [.str (.good token)] .closed) ⟨token, none⟩
  | pair (token : String) {d : Doc} {kind : Option String} (told : Kind d kind) :
      Spelt (.arr [.str (.good token), d] .closed) ⟨token, kind⟩

/-! ## Texts and kinds -/

theorem string_eq_ok {origin : Origin} {s : String} :
    Codec.string.decode origin d = .ok s ↔ d = .str (.good s) := by
  cases d with
  | str text => cases text <;> simp [Codec.string, Lexeme.read]
  | _ => simp [Codec.string]

theorem kind_eq_ok {origin : Origin} {o : Option String} :
    Codec.string.option.decode origin d = .ok o ↔ Kind d o := by
  constructor
  · intro read
    by_cases blank : d = .null
    · subst blank
      cases read
      exact .null
    · rw [Codec.option_decode blank] at read
      cases text : Codec.string.decode origin d with
      | error e =>
        rw [text] at read
        cases read
      | ok s =>
        rw [text] at read
        cases read
        rw [string_eq_ok.mp text]
        exact .text s
  · rintro (_ | kind) <;> rfl

/-! ## Objects -/

variable {seen : List String} {rest : List (Key × Doc)}

theorem under_cons_self (name : String) (d : Doc) (rest : List (Key × Doc)) :
    under name ((.text (.good name), d) :: rest) = d :: under name rest := by
  simp [under]

theorem under_cons_other {name k : String} (other : k ≠ name) (d : Doc) (rest : List (Key × Doc)) :
    under name ((.text (.good k), d) :: rest) = under name rest := by
  simp [under, other]

theorem readWith_bind {σ τ α : Type} (c : Codec τ) (set : τ → σ → σ) (origin : Origin) (d : Doc)
    (next : (σ → σ) → Reading α) :
    Field.readWith c set origin d >>= next = c.decode origin d >>= fun v => next (set v) := by
  unfold Field.readWith
  cases c.decode origin d <;> rfl

theorem token_mem : .required "access_token" .string (·.accessToken)
    (fun v s => { s with accessToken := v }) ∈ record.fields := List.mem_cons_self

theorem kind_mem : .defaulted "token_type" Codec.string.option (·.tokenType)
    (fun v s => { s with tokenType := v }) ∈ record.fields :=
  List.mem_cons_of_mem _ List.mem_cons_self

theorem names_nodup : record.names.Nodup := by decide

theorem readMembers_token (fresh : "access_token" ∉ seen) :
    record.readMembers .text ending seen acc ((.text (.good "access_token"), d) :: rest) =
      Codec.string.decode .text d >>= fun v =>
        record.readMembers .text ending ("access_token" :: seen) { acc with accessToken := v }
          rest :=
  (Record.readMembers_field names_nodup token_mem fresh).trans (readWith_bind ..)

theorem readMembers_kind (fresh : "token_type" ∉ seen) :
    record.readMembers .text ending seen acc ((.text (.good "token_type"), d) :: rest) =
      Codec.string.option.decode .text d >>= fun v =>
        record.readMembers .text ending ("token_type" :: seen) { acc with tokenType := v }
          rest :=
  (Record.readMembers_field names_nodup kind_mem fresh).trans (readWith_bind ..)

theorem readMembers_again (known : k = "access_token" ∨ k = "token_type") (again : k ∈ seen) :
    record.readMembers .text ending seen acc ((.text (.good k), d) :: rest) =
      .error (.duplicateField k) := by
  rcases known with rfl | rfl
  · exact Record.readMembers_again names_nodup token_mem again
  · exact Record.readMembers_again names_nodup kind_mem again

theorem readMembers_other (other : k ≠ "access_token") (other' : k ≠ "token_type") :
    record.readMembers .text ending seen acc ((.text (.good k), d) :: rest) =
      guardFlaw d.skip >>= fun _ => record.readMembers .text ending seen acc rest := by
  refine Record.readMembers_passed rfl ?_
  rintro (_ | ⟨_, _ | ⟨_, ⟨⟩⟩⟩)
  · exact other rfl
  · exact other' rfl

/-- The rest of an object makes a grant of what was read before it. -/
structure Completes (seen : List String) (acc : Grant) (rest : List (Key × Doc)) (g : Grant) :
    Prop where
  each : ∀ m ∈ rest, Member m
  token : "access_token" ∈ seen ∧ under "access_token" rest = [] ∧ g.accessToken = acc.accessToken ∨
    "access_token" ∉ seen ∧ under "access_token" rest = [.str (.good g.accessToken)]
  kind : under "token_type" rest = [] ∧ g.tokenType = acc.tokenType ∨
    "token_type" ∉ seen ∧ ∃ d, under "token_type" rest = [d] ∧ Kind d g.tokenType

theorem completes_nil : Completes seen acc [] g ↔ "access_token" ∈ seen ∧ acc = g := by
  constructor
  · rintro ⟨_, token, kind⟩
    obtain ⟨accessToken, tokenType⟩ := g
    obtain ⟨accessToken', tokenType'⟩ := acc
    simp_all [under]
  · rintro ⟨given, rfl⟩
    exact ⟨by simp, .inl ⟨given, rfl, rfl⟩, .inl ⟨rfl, rfl⟩⟩

theorem completes_token (fresh : "access_token" ∉ seen) :
    Completes seen acc ((.text (.good "access_token"), d) :: rest) g ↔
      ∃ v, d = .str (.good v) ∧
        Completes ("access_token" :: seen) { acc with accessToken := v } rest g := by
  have apart : "access_token" ≠ "token_type" := by decide
  constructor
  · rintro ⟨each, token, kind⟩
    rw [under_cons_self] at token
    rw [under_cons_other apart] at kind
    obtain ⟨rfl, alone⟩ := List.cons.inj (token.resolve_left fun h => fresh h.1).2
    refine ⟨_, rfl, (List.forall_mem_cons.mp each).2, .inl ⟨List.mem_cons_self, alone, rfl⟩, ?_⟩
    simpa [apart.symm] using kind
  · rintro ⟨v, rfl, each, token, kind⟩
    obtain ⟨_, alone, same⟩ := token.resolve_right fun h => h.1 List.mem_cons_self
    refine ⟨List.forall_mem_cons.mpr ⟨⟨_, rfl, fun h => absurd rfl h⟩, each⟩,
      .inr ⟨fresh, ?_⟩, ?_⟩
    · rw [under_cons_self, alone, same]
    · rw [under_cons_other apart]
      simpa [apart.symm] using kind

theorem completes_kind (fresh : "token_type" ∉ seen) :
    Completes seen acc ((.text (.good "token_type"), d) :: rest) g ↔
      ∃ v, Kind d v ∧ Completes ("token_type" :: seen) { acc with tokenType := v } rest g := by
  have apart : "token_type" ≠ "access_token" := by decide
  constructor
  · rintro ⟨each, token, kind⟩
    rw [under_cons_other apart] at token
    rw [under_cons_self] at kind
    obtain ⟨_, d', same, told⟩ := kind.resolve_left fun h => List.cons_ne_nil _ _ h.1
    obtain ⟨rfl, alone⟩ := List.cons.inj same
    refine ⟨_, told, (List.forall_mem_cons.mp each).2, ?_, .inl ⟨alone, rfl⟩⟩
    simpa [apart.symm] using token
  · rintro ⟨v, told, each, token, kind⟩
    obtain ⟨alone, same⟩ := kind.resolve_right fun h => h.1 List.mem_cons_self
    refine ⟨List.forall_mem_cons.mpr ⟨⟨_, rfl, fun _ h => absurd rfl h⟩, each⟩, ?_,
      .inr ⟨fresh, d, ?_, same ▸ told⟩⟩
    · rw [under_cons_other apart]
      simpa [apart.symm] using token
    · rw [under_cons_self, alone]

theorem not_completes_again (known : k = "access_token" ∨ k = "token_type") (again : k ∈ seen) :
    ¬ Completes seen acc ((.text (.good k), d) :: rest) g := by
  rintro ⟨_, token, kind⟩
  rcases known with rfl | rfl
  · rw [under_cons_self] at token
    rcases token with ⟨_, none, _⟩ | ⟨fresh, _⟩
    · cases none
    · exact fresh again
  · rw [under_cons_self] at kind
    rcases kind with ⟨none, _⟩ | ⟨fresh, _⟩
    · cases none
    · exact fresh again

theorem completes_other (other : k ≠ "access_token") (other' : k ≠ "token_type") :
    Completes seen acc ((.text (.good k), d) :: rest) g ↔
      d.skip = none ∧ Completes seen acc rest g := by
  constructor
  · rintro ⟨each, token, kind⟩
    rw [under_cons_other other] at token
    rw [under_cons_other other'] at kind
    obtain ⟨⟨k', same, passed⟩, each⟩ := List.forall_mem_cons.mp each
    cases same
    exact ⟨passed other other', each, token, kind⟩
  · rintro ⟨passed, each, token, kind⟩
    refine ⟨List.forall_mem_cons.mpr ⟨⟨k, rfl, fun _ _ => passed⟩, each⟩, ?_, ?_⟩
    · rwa [under_cons_other other]
    · rwa [under_cons_other other']

theorem bind_eq_ok {ε α β : Type} {x : Except ε α} {f : α → Except ε β} {v : β} :
    x >>= f = .ok v ↔ ∃ u, x = .ok u ∧ f u = .ok v := by
  cases x with
  | error e => simp [bind, Except.bind]
  | ok u => simp [bind, Except.bind]

theorem pure_eq_ok : (pure acc : Reading Grant) = .ok g ↔ acc = g :=
  Except.ok.injEq acc g ▸ Iff.rfl

theorem guardFlaw_eq_ok {flaw : Option Flaw} {u : Unit} : guardFlaw flaw = .ok u ↔ flaw = none := by
  cases flaw <;> simp [guardFlaw]

theorem closed_iff : ending.inObject = none ↔ ending = .closed := by
  cases ending <;> simp [Ending.inObject]

theorem missing_eq_ok {u : Unit} :
    Record.missing record.fields seen = .ok u ↔ "access_token" ∈ seen := by
  by_cases given : "access_token" ∈ seen <;>
    simp [Record.missing, record, Field.required, Field.defaulted, given]

/-- The members of an object are read one after the other. -/
theorem readMembers_eq_ok : record.readMembers .text ending seen acc members = .ok g ↔
    ending = .closed ∧ Completes seen acc members g := by
  induction members generalizing seen acc with
  | nil =>
    simp only [Record.readMembers, bind_eq_ok, guardFlaw_eq_ok, missing_eq_ok, pure_eq_ok, closed_iff,
      completes_nil, exists_const]
  | cons m rest ih =>
    obtain ⟨key, d⟩ := m
    have named (h : Completes seen acc ((key, d) :: rest) g) : ∃ k, key = .text (.good k) := by
      obtain ⟨k, same, _⟩ := h.each _ List.mem_cons_self
      exact ⟨k, same⟩
    cases key with
    | other =>
      refine ⟨fun read => (by cases read), fun h => ?_⟩
      obtain ⟨k, same⟩ := named h.2
      cases same
    | text name =>
      cases name with
      | flawed f s =>
        refine ⟨fun read => (by cases read), fun h => ?_⟩
        obtain ⟨k, same⟩ := named h.2
        cases same
      | good k =>
        -- A name that was seen leaves no room for a second value, and other names are passed over.
        by_cases token : k = "access_token"
        · subst token
          by_cases again : "access_token" ∈ seen
          · simp [readMembers_again (.inl rfl) again, not_completes_again (.inl rfl) again]
          · rw [readMembers_token again, completes_token again, bind_eq_ok]
            simp only [string_eq_ok, ih, and_left_comm, exists_and_left]
        by_cases kind : k = "token_type"
        · subst kind
          by_cases again : "token_type" ∈ seen
          · simp [readMembers_again (.inr rfl) again, not_completes_again (.inr rfl) again]
          · rw [readMembers_kind again, completes_kind again, bind_eq_ok]
            simp only [kind_eq_ok, ih, and_left_comm, exists_and_left]
        · rw [readMembers_other token kind, completes_other token kind, bind_eq_ok]
          simp only [guardFlaw_eq_ok, ih, and_left_comm, exists_const]

theorem object_eq_ok : record.decode .text (.obj members ending) = .ok g ↔
    Spelt (.obj members ending) g := by
  have read : record.decode .text (.obj members ending) =
      record.readMembers .text ending [] record.blank members := rfl
  rw [read, readMembers_eq_ok]
  constructor
  · rintro ⟨rfl, each, token, kind⟩
    refine .object each (token.resolve_left fun h => List.not_mem_nil h.1).2 ?_
    exact kind.imp_right And.right
  · rintro ⟨each, token, kind⟩
    refine ⟨rfl, each, .inr ⟨List.not_mem_nil, token⟩, ?_⟩
    exact kind.imp_right fun told => ⟨List.not_mem_nil, told⟩

/-! ## Lists -/

variable {items : List Doc} {token : String}

theorem afterEnough_iff : ending.afterEnough = none ↔ ending = .closed := by
  cases ending <;> simp [Ending.afterEnough]

theorem inList_iff : ending.inList = none ↔ ending = .closed := by
  cases ending <;> simp [Ending.inList]

theorem readItems_token : record.readItems .text ending 0 record.blank record.fields (d :: items) =
    Codec.string.decode .text d >>= fun token =>
      record.readItems .text ending 1 ⟨token, none⟩ record.fields.tail items :=
  readWith_bind ..

theorem readItems_kind : record.readItems .text ending 1 ⟨token, none⟩ record.fields.tail (d :: items) =
    Codec.string.option.decode .text d >>= fun kind =>
      record.readItems .text ending 2 ⟨token, kind⟩ [] items :=
  readWith_bind ..

theorem surplus_eq_ok {n : Nat} {u : Unit} :
    Record.surplus .text ending n items = .ok u ↔ items = [] ∧ ending = .closed := by
  cases items with
  | nil => simp [Record.surplus, guardFlaw_eq_ok, afterEnough_iff]
  | cons d items => simp [Record.surplus, guardFlaw_eq_ok]

theorem readItems_behind : record.readItems .text ending 2 acc [] items = .ok g ↔
    (items = [] ∧ ending = .closed) ∧ acc = g := by
  simp only [Record.readItems, bind_eq_ok, surplus_eq_ok, pure_eq_ok, exists_const]

theorem readItems_short :
    record.readItems .text ending 1 ⟨token, none⟩ record.fields.tail [] = .ok g ↔
      ending = .closed ∧ ⟨token, none⟩ = g := by
  have step : record.readItems .text ending 1 ⟨token, none⟩ record.fields.tail [] =
      guardFlaw ending.inList >>= fun _ => record.readItems .text ending 2 ⟨token, none⟩ [] [] := rfl
  simp only [step, bind_eq_ok, guardFlaw_eq_ok, inList_iff, readItems_behind, exists_const,
    true_and, and_self_left]

theorem list_eq_ok : record.decode .text (.arr items ending) = .ok g ↔ Spelt (.arr items ending) g := by
  have read : record.decode .text (.arr items ending) =
      record.readItems .text ending 0 record.blank record.fields items := rfl
  rw [read]
  match items with
  | [] =>
    refine ⟨fun none => ?_, nofun⟩
    cases ending <;> cases none
  | [d] =>
    simp only [readItems_token, bind_eq_ok, string_eq_ok, readItems_short]
    constructor
    · rintro ⟨token, rfl, rfl, rfl⟩
      exact .single token
    · rintro ⟨⟩
      exact ⟨_, rfl, rfl, rfl⟩
  | d :: kind :: items =>
    simp only [readItems_token, readItems_kind, bind_eq_ok, string_eq_ok, kind_eq_ok, readItems_behind]
    constructor
    · rintro ⟨token, rfl, kind, told, ⟨rfl, rfl⟩, rfl⟩
      exact .pair token told
    · intro h
      cases h with
      | pair token told => exact ⟨_, rfl, _, told, ⟨rfl, rfl⟩, rfl⟩

/-! ## Documents -/

/-- A document is read as a grant if it spells it. -/
theorem decode_eq_ok : record.decode .text d = .ok g ↔ Spelt d g := by
  cases d with
  | obj members ending => exact object_eq_ok
  | arr items ending => exact list_eq_ok
  | _ => exact ⟨nofun, nofun⟩

theorem read_eq_ok {gs : List Glyph} :
    record.codec.read gs = .ok g ↔ ∃ d, Doc.ofGlyphs gs = (d, false) ∧ Spelt d g := by
  have read : record.codec.read gs =
      record.decode .text (Doc.ofGlyphs gs).1 >>= fun v =>
        if (Doc.ofGlyphs gs).2 then .error (.malformed .textAfterValue) else .ok v := rfl
  rw [read, bind_eq_ok]
  obtain ⟨d, more⟩ := Doc.ofGlyphs gs
  cases more <;> simp [decode_eq_ok]

end Tenancy.Provider.Grant
