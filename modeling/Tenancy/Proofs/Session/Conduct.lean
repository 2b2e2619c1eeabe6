import Tenancy.Proofs.Session.Access

/-!
# How a call with a token is conducted

A call with a token is made of moves: a token is issued, or the call is attempted with one. Whatever
these are made of, and whoever answers, the moves of a call come in one of few courses: a token is at
hand or is issued first, and a first attempt that finds its token rejected is followed by a renewal
and, if that succeeds, by a second attempt. All else ends the call, and its last move decides what is
reported: a value and a failure in its own right as they are, an error of the provider under the text
of the call.
-/

namespace Tenancy.Session

/-! ## Moves -/

/-- A move of a call. -/
inductive Move where
  | issue
  | attempt (token : Token)
  deriving DecidableEq, Repr

/-- What can come of a move. -/
def Move.Answer (α : Type) : Move → Type
  | .issue => Except ProviderError Token
  | .attempt _ => Except Setback α

/-- The moves of a call for a value of a type. -/
def Moves (α : Type) : Interface := ⟨Move, Move.Answer α⟩

variable {I : Interface} {α : Type}

/-- How the moves are made. -/
def Move.make (issue : Program I (Except ProviderError Token))
    (attempt : Token → Program I (Except Setback α)) :
    (m : (Moves α).Query) → Program I ((Moves α).Answer m)
  | .issue => issue
  | .attempt t => attempt t

/-- A token was requested, with this outcome. -/
abbrev issued (a : Except ProviderError Token) : (Moves α).Event := ⟨.issue, a⟩

/-- The call was attempted with the token, with this outcome. -/
abbrev attempted (t : Token) (a : Except Setback α) : (Moves α).Event := ⟨.attempt t, a⟩

/-- The call was attempted, but its token was rejected. -/
abbrev rejected (t : Token) : (Moves α).Event := attempted t (.error (.raw .unauthorized))

/-- The attempts among moves: the token of each and what came of it. -/
def attempts : List (Moves α).Event → List (Token × Except Setback α)
  | [] => []
  | ⟨.issue, _⟩ :: moves => attempts moves
  | ⟨.attempt t, a⟩ :: moves => (t, a) :: attempts moves

theorem attempts_append (moves moves' : List (Moves α).Event) :
    attempts (moves ++ moves') = attempts moves ++ attempts moves' := by
  induction moves with
  | nil => rfl
  | cons m moves ih =>
    obtain ⟨_ | t, a⟩ := m
    · exact ih
    · exact congrArg ((t, a) :: ·) ih

/-- What is reported if a move is the last one of a call. -/
inductive Settles (context : String) : (Moves α).Event → Except Fault α → Prop
  | unissued (e : ProviderError) :
      Settles context (issued (.error e)) (.error (.provider context (some e)))
  | failed (t : Token) (e : ProviderError) :
      Settles context (attempted t (.error (.raw e))) (.error (.provider context (some e)))
  | settled (t : Token) (f : Fault) : Settles context (attempted t (.error (.settled f))) (.error f)
  | succeeded (t : Token) (v : α) : Settles context (attempted t (.ok v)) (.ok v)

theorem settles_attempted (context : String) (t : Token) (a : Except Setback α) :
    Settles context (attempted t a) (a.mapError (Setback.fault context)) := by
  match a with
  | .ok v => exact .succeeded t v
  | .error (.raw e) => exact .failed t e
  | .error (.settled f) => exact .settled t f

theorem Settles.unique {context : String} {m : (Moves α).Event} {r r' : Except Fault α}
    (h : Settles context m r) (h' : Settles context m r') : r = r' := by
  cases h <;> cases h' <;> rfl

theorem not_settles_issued {context : String} {t : Token} {r : Except Fault α} :
    ¬ Settles context (issued (.ok t)) r := by
  intro h
  cases h

/-! ## Courses -/

/-- The moves with which a call comes by its first token. -/
inductive Begins : TokenSlot → Token → List (Moves α).Event → Prop
  | kept (t : Token) : Begins ⟨some t⟩ t []
  | fetched (t : Token) : Begins ⟨none⟩ t [issued (.ok t)]

/-- The moves of a call up to the last one, and that one. -/
inductive Course : TokenSlot → List (Moves α).Event → (Moves α).Event → Prop
  | tokenless (e : ProviderError) : Course ⟨none⟩ [] (issued (.error e))
  | once {slot : TokenSlot} {t : Token} {start : List (Moves α).Event} (begins : Begins slot t start)
      {a : Except Setback α} (heard : a ≠ .error (.raw .unauthorized)) :
      Course slot start (attempted t a)
  | unrenewed {slot : TokenSlot} {t : Token} {start : List (Moves α).Event}
      (begins : Begins slot t start) (e : ProviderError) :
      Course slot (start ++ [rejected t]) (issued (.error e))
  | twice {slot : TokenSlot} {t : Token} {start : List (Moves α).Event}
      (begins : Begins slot t start) (t' : Token) (a : Except Setback α) :
      Course slot (start ++ [rejected t, issued (.ok t')]) (attempted t' a)

section Making

variable {issue : Program I (Except ProviderError Token)}
  {attempt : Token → Program I (Except Setback α)} {slot slot' : TokenSlot} {es : List I.Event}

variable (attempt) in
theorem obtained_begins {t : Token} (h : Obtained issue slot es t) :
    ∃ start, Begins slot t start ∧ Program.Carried (Move.make issue attempt) start es := by
  cases h with
  | kept => exact ⟨[], .kept t, .nil⟩
  | issued run =>
    have made : Program.Carried (Move.make issue attempt) [issued (.ok t)] (es ++ []) :=
      .cons run .nil
    exact ⟨_, .fetched t, List.append_nil es ▸ made⟩

/-- Every access is made of the moves of some course, whose last move settles it. -/
theorem accessed_course {context : String} {r : Except Fault α}
    (h : Accessed issue context attempt slot es r slot') :
    ∃ moves last, Program.Carried (Move.make issue attempt) (moves ++ [last]) es ∧
      Course slot moves last ∧ Settles context last r := by
  have issuing {es : List I.Event} {a : Except ProviderError Token} (run : issue.Runs es a) :
      (Move.make issue attempt (issued (α := α) a).query).Runs es (issued (α := α) a).answer := run
  have trying {es : List I.Event} {t : Token} {a : Except Setback α} (run : (attempt t).Runs es a) :
      (Move.make issue attempt (attempted t a).query).Runs es (attempted t a).answer := run
  cases h with
  | tokenless run => exact ⟨[], _, .single (issuing run), .tokenless _, .unissued _⟩
  | once token tried heard =>
    obtain ⟨start, begins, made⟩ := obtained_begins attempt token
    exact ⟨start, _, made.append (.single (trying tried)), .once begins heard,
      settles_attempted _ _ _⟩
  | unrenewed token tried renewed =>
    obtain ⟨start, begins, made⟩ := obtained_begins attempt token
    refine ⟨_, _, ?_, .unrenewed begins _, .unissued _⟩
    rw [List.append_assoc]
    exact made.append (.cons (trying tried) (.single (issuing renewed)))
  | @twice _ _ _ _ _ t t' a token tried renewed retried =>
    obtain ⟨start, begins, made⟩ := obtained_begins attempt token
    refine ⟨_, _, ?_, .twice begins t' a, settles_attempted _ _ _⟩
    rw [List.append_assoc]
    exact made.append (.cons (trying tried) (.cons (issuing renewed) (.single (trying retried))))

end Making

/-! ## What a course amounts to -/

variable {context : String} {slot slot' : TokenSlot} {t : Token}
  {start tail before after moves : List (Moves α).Event} {m last : (Moves α).Event}
  {r r' : Except Fault α}

theorem Begins.attempts (h : Begins slot t start) : attempts start = [] := by
  cases h <;> rfl

/-- Nothing is settled before the first attempt. -/
theorem Begins.skip (h : Begins slot t start) (settles : Settles context m r')
    (cut : start ++ tail = before ++ m :: after) :
    ∃ before', before = start ++ before' ∧ tail = before' ++ m :: after := by
  cases h with
  | kept => exact ⟨before, rfl, cut⟩
  | fetched =>
    cases before with
    | nil =>
      obtain ⟨rfl, _⟩ := List.cons.inj cut
      exact (not_settles_issued settles).elim
    | cons b before =>
      obtain ⟨rfl, rest⟩ := List.cons.inj cut
      exact ⟨before, rfl, rest⟩

/-- How a call with a token is conducted, from its first move to what it reports. -/
structure Conducted (context : String) (slot : TokenSlot) (moves : List (Moves α).Event)
    (r : Except Fault α) : Prop where
  /-- The kept token is used, or one is requested first; a failed request is all there is. -/
  starts : (∃ t a rest, slot = ⟨some t⟩ ∧ moves = attempted t a :: rest) ∨
    (∃ e, slot = ⟨none⟩ ∧ moves = [issued (.error e)]) ∨
    ∃ t a rest, slot = ⟨none⟩ ∧ moves = issued (.ok t) :: attempted t a :: rest
  twice : (attempts moves).length ≤ 2
  /-- There is a second attempt if the token of the first was rejected and then renewed. -/
  again : (attempts moves).length = 2 ↔ ∃ before t t' rest, attempts before = [] ∧
    moves = before ++ rejected t :: issued (.ok t') :: rest
  renews : ∀ before t after, moves = before ++ rejected t :: after → attempts before = [] →
    ∃ a rest, after = issued a :: rest
  /-- Nothing follows a move that can end the call, unless it is the first attempt and its token was
  rejected; and what such a move says is what the call reports. -/
  final : ∀ before m after r', moves = before ++ m :: after → Settles context m r' →
    (∀ t, m = rejected t → attempts before ≠ []) → after = [] ∧ r = r'
  ends : ∃ before last, moves = before ++ [last] ∧ Settles context last r

theorem Course.starts (h : Course slot moves last) :
    (∃ t a rest, slot = ⟨some t⟩ ∧ moves ++ [last] = attempted t a :: rest) ∨
    (∃ e, slot = ⟨none⟩ ∧ moves ++ [last] = [issued (.error e)]) ∨
    ∃ t a rest, slot = ⟨none⟩ ∧ moves ++ [last] = issued (.ok t) :: attempted t a :: rest := by
  have begun {t : Token} {a : Except Setback α} {start rest : List (Moves α).Event}
      (begins : Begins slot t start) :
      (∃ t' a' rest', slot = ⟨some t'⟩ ∧
        start ++ attempted t a :: rest = attempted t' a' :: rest') ∨
      ∃ t' a' rest', slot = ⟨none⟩ ∧
        start ++ attempted t a :: rest = issued (.ok t') :: attempted t' a' :: rest' := by
    cases begins with
    | kept => exact .inl ⟨t, a, rest, rfl, rfl⟩
    | fetched => exact .inr ⟨t, a, rest, rfl, rfl⟩
  cases h with
  | tokenless e => exact .inr (.inl ⟨e, rfl, rfl⟩)
  | once begins _ => exact (begun begins).imp_right .inr
  | unrenewed begins e =>
    rw [List.append_assoc]
    exact (begun begins).imp_right .inr
  | twice begins t' a =>
    rw [List.append_assoc]
    exact (begun begins).imp_right .inr

/-- Where a move stands that can end the call: it is the last one, or it is the first attempt, whose
token was rejected, and a renewal follows. -/
theorem Course.split (h : Course slot moves last) (settles : Settles context m r')
    (cut : moves ++ [last] = before ++ m :: after) :
    (m = last ∧ after = [] ∧ ((∃ t, m = rejected t) → attempts before ≠ [])) ∨
      attempts before = [] ∧ (∃ t, m = rejected t) ∧ ∃ a rest, after = issued a :: rest := by
  cases h with
  | tokenless e =>
    rcases before with _ | ⟨_, _ | _⟩ <;> cases cut
    exact .inl ⟨rfl, rfl, by rintro ⟨_, ⟨⟩⟩⟩
  | once begins heard =>
    obtain ⟨before', rfl, rest⟩ := begins.skip settles cut
    rcases before' with _ | ⟨_, _ | _⟩ <;> cases rest
    refine .inl ⟨rfl, rfl, ?_⟩
    rintro ⟨t, same⟩
    cases same
    exact (heard rfl).elim
  | @unrenewed slot t start begins e =>
    rw [List.append_assoc] at cut
    obtain ⟨before', rfl, rest⟩ := begins.skip settles cut
    rw [attempts_append, begins.attempts, List.nil_append]
    rcases before' with _ | ⟨_, _ | ⟨_, _ | _⟩⟩ <;> cases rest
    · exact .inr ⟨rfl, ⟨t, rfl⟩, _, _, rfl⟩
    · exact .inl ⟨rfl, rfl, by rintro ⟨_, ⟨⟩⟩⟩
  | @twice slot t start begins t' a =>
    rw [List.append_assoc] at cut
    obtain ⟨before', rfl, rest⟩ := begins.skip settles cut
    rw [attempts_append, begins.attempts, List.nil_append]
    rcases before' with _ | ⟨_, _ | ⟨_, _ | ⟨_, _ | _⟩⟩⟩ <;> cases rest
    · exact .inr ⟨rfl, ⟨t, rfl⟩, _, _, rfl⟩
    · exact (not_settles_issued settles).elim
    · exact .inl ⟨rfl, rfl, fun _ => by simp [attempts]⟩

theorem Course.attempts_length (h : Course slot moves last) :
    (attempts (moves ++ [last])).length ≤ 2 ∧
      ((attempts (moves ++ [last])).length = 2 →
        ∃ before t t' rest, attempts before = [] ∧
          moves ++ [last] = before ++ rejected t :: issued (.ok t') :: rest) := by
  cases h with
  | tokenless e => simp [attempts]
  | once begins heard => simp [attempts_append, begins.attempts, attempts]
  | unrenewed begins e => simp [attempts_append, begins.attempts, attempts]
  | @twice _ t start begins t' a =>
    refine ⟨by simp [attempts_append, begins.attempts, attempts], fun _ => ?_⟩
    exact ⟨start, t, t', [attempted t' a], begins.attempts, by simp⟩

/-- A renewed token is used. -/
theorem Course.renewed (h : Course slot moves last) {t' : Token}
    (cut : moves ++ [last] = before ++ rejected t :: issued (.ok t') :: after)
    (first : attempts before = []) : (attempts (moves ++ [last])).length = 2 := by
  cases h with
  | tokenless e => rcases before with _ | ⟨_, _ | _⟩ <;> cases cut
  | once begins heard =>
    obtain ⟨before', rfl, rest⟩ := begins.skip (.failed t _ : Settles "" _ _) cut
    rcases before' with _ | ⟨_, _ | _⟩ <;> cases rest
  | unrenewed begins e =>
    rw [List.append_assoc] at cut
    obtain ⟨before', rfl, rest⟩ := begins.skip (.failed t _ : Settles "" _ _) cut
    rcases before' with _ | ⟨_, _ | ⟨_, _ | _⟩⟩ <;> cases rest
  | twice begins t' a => simp [attempts_append, begins.attempts, attempts]

theorem Course.conducted (h : Course slot moves last) (settles : Settles context last r) :
    Conducted context slot (moves ++ [last]) r where
  starts := h.starts
  twice := h.attempts_length.1
  again := ⟨h.attempts_length.2, fun ⟨_, _, _, _, first, cut⟩ => h.renewed cut first⟩
  renews before t after cut first := by
    rcases h.split (.failed t _ : Settles context _ _) cut with ⟨_, _, late⟩ | ⟨_, _, renewal⟩
    · exact (late ⟨t, rfl⟩ first).elim
    · exact renewal
  final before m after r' cut ended late := by
    rcases h.split ended cut with ⟨rfl, rfl, _⟩ | ⟨first, ⟨t, same⟩, _⟩
    · exact ⟨rfl, settles.unique ended⟩
    · exact (late t same first).elim
  ends := ⟨moves, last, rfl, settles⟩

/-! ## Calls -/

/-- Whatever its attempts do and however tokens are issued, a call is made of moves and conducted by
them: it is attempted at most twice, and the second time exactly if the first attempt found its token
rejected and the token was renewed. A value and a failure in its own right are reported as they are,
an error of the provider and a missing token under the text of the call, and nothing follows them but
that one renewal. -/
theorem access_conducted {issue : Program I (Except ProviderError Token)} {context : String}
    {attempt : Token → Program I (Except Setback α)} {slot slot' : TokenSlot} {es : List I.Event}
    {r : Except Fault α} (run : (access issue context attempt).Runs slot es r slot') :
    ∃ moves, Program.Carried (Move.make issue attempt) moves es ∧
      Conducted context slot moves r := by
  obtain ⟨moves, last, made, course, settles⟩ := accessed_course (Runs.of_access run)
  exact ⟨moves ++ [last], made, course.conducted settles⟩

/-- A failure in its own right that tells of a rejected token. -/
def wrapped : Fault := .provider "Failed to look up realm: acme" (some .unauthorized)

/-- No token is kept, the first one is rejected, and the second attempt ends with that failure. -/
def wrappedMoves : List (Moves Nat).Event :=
  [issued (.ok "a"), rejected "a", issued (.ok "b"), attempted "b" (.error (.settled wrapped))]

theorem wrapped_conducted :
    (access (Program.query (I := Moves Nat) .issue) "step" fun t =>
      Program.query (I := Moves Nat) (.attempt t)).Runs .empty wrappedMoves (.error wrapped)
        ⟨some "b"⟩ ∧
    ∃ moves, Program.Carried (Move.make (Program.query (I := Moves Nat) .issue) fun t =>
      Program.query (I := Moves Nat) (.attempt t)) moves wrappedMoves ∧
      Conducted "step" .empty moves (.error wrapped) := by
  have run : (access (Program.query (I := Moves Nat) .issue) "step" fun t =>
      Program.query (I := Moves Nat) (.attempt t)).Runs .empty wrappedMoves (.error wrapped)
        ⟨some "b"⟩ := .ask (.ask (.ask (.ask (.done _))))
  exact ⟨run, access_conducted run⟩

end Tenancy.Session
