import Mathlib.Data.List.Forall2
import Tenancy.Proofs.Program.Runs

/-!
# Programs that agree

Two programs agree if they ask the same as long as they get answers that are alike, and end with
results that are related. Agreement follows a program as it is put together. What it comes to is seen
in two worlds whose answers are alike as long as all before them was: there, both programs ask the
same from beginning to end.
-/

namespace Tenancy

/-- Which answers to one question are alike. -/
abbrev Interface.Likeness (I : Interface) := (q : I.Query) → I.Answer q → I.Answer q → Prop

/-- How answers come about, each from the question and all that happened before. -/
abbrev Interface.World (I : Interface) := List I.Event → (q : I.Query) → I.Answer q

/-- How two computations end that may fail: both well or both badly, with related values. -/
inductive Matched {ε α ε' α' : Type} (F : ε → ε' → Prop) (R : α → α' → Prop) :
    Except ε α → Except ε' α' → Prop
  | ok {v : α} {v' : α'} (h : R v v') : Matched F R (.ok v) (.ok v')
  | error {e : ε} {e' : ε'} (h : F e e') : Matched F R (.error e) (.error e')

namespace Program

variable {I J : Interface} {A : I.Likeness} {α α' β β' : Type} {R : α → α' → Prop}
  {S : β → β' → Prop}

/-- The programs ask the same while their answers are alike, and end with related results. -/
inductive Agrees (A : I.Likeness) (R : α → α' → Prop) : Program I α → Program I α' → Prop
  | done {v : α} {v' : α'} (h : R v v') : Agrees A R (.done v) (.done v')
  | ask {q : I.Query} {next : I.Answer q → Program I α} {next' : I.Answer q → Program I α'}
      (rest : ∀ a a', A q a a' → Agrees A R (next a) (next' a')) :
      Agrees A R (.ask q next) (.ask q next')

variable {p : Program I α} {p' : Program I α'}

/-! ## Putting programs together -/

theorem Agrees.query (q : I.Query) : Agrees A (A q) (Program.query q) (Program.query q) :=
  .ask fun _ _ h => .done h

theorem Agrees.mono {R' : α → α' → Prop} (h : Agrees A R p p') (weaker : ∀ v v', R v v' → R' v v') :
    Agrees A R' p p' := by
  induction h with
  | done h => exact .done (weaker _ _ h)
  | ask _ ih => exact .ask fun a a' same => ih a a' same

theorem Agrees.bind {f : α → Program I β} {f' : α' → Program I β'} (h : Agrees A R p p')
    (rest : ∀ v v', R v v' → Agrees A S (f v) (f' v')) : Agrees A S (p.bind f) (p'.bind f') := by
  induction h with
  | done h => exact rest _ _ h
  | ask _ ih => exact .ask fun a a' same => ih a a' same

theorem Agrees.map {f : α → β} {f' : α' → β'} (h : Agrees A R p p')
    (image : ∀ v v', R v v' → S (f v) (f' v')) : Agrees A S (f <$> p) (f' <$> p') := by
  rw [map_eq_pure_bind, map_eq_pure_bind]
  exact h.bind fun v v' related => .done (image v v' related)

/-- Programs that agree still do once their questions are answered by programs over another interface,
if those agree with themselves that their answers are alike. -/
theorem Agrees.via {B : J.Likeness} {find : (q : I.Query) → Program J (I.Answer q)}
    (found : ∀ q, Agrees B (A q) (find q) (find q)) (h : Agrees A R p p') :
    Agrees B R (p.via find) (p'.via find) := by
  induction h with
  | done h => exact .done h
  | ask _ ih => exact (found _).bind fun a a' same => ih a a' same

/-! ## Against two worlds -/

/-- All that happens, and the result, when a world answers the program. -/
def against (w : I.World) : Program I α → List I.Event → List I.Event × α
  | .done v, _ => ([], v)
  | .ask q next, past =>
    let e : I.Event := ⟨q, w past q⟩
    let rest := (next e.answer).against w (past ++ [e])
    (e :: rest.1, rest.2)

/-- The questions that a world is asked, and the result. -/
def seen (w : I.World) (p : Program I α) : List I.Query × α :=
  ((p.against w []).1.map (·.query), (p.against w []).2)

theorem against_runs (w : I.World) (p : Program I α) (past : List I.Event) :
    p.Runs (p.against w past).1 (p.against w past).2 := by
  induction p generalizing past with
  | done v => exact .done v
  | ask q next ih => exact .ask (ih _ _)

/-- The same question with answers that are alike. -/
inductive Alike (A : I.Likeness) : I.Event → I.Event → Prop
  | mk {q : I.Query} {a a' : I.Answer q} (h : A q a a') : Alike A ⟨q, a⟩ ⟨q, a'⟩

/-- Two worlds that give answers which are alike, if all they have answered before was. -/
def AlikeWorlds (A : I.Likeness) (w w' : I.World) : Prop :=
  ∀ past past', List.Forall₂ (Alike A) past past' → ∀ q, A q (w past q) (w' past' q)

theorem Agrees.against {w w' : I.World} (h : Agrees A R p p') (worlds : AlikeWorlds A w w')
    {past past' : List I.Event} (before : List.Forall₂ (Alike A) past past') :
    List.Forall₂ (Alike A) (p.against w past).1 (p'.against w' past').1 ∧
      R (p.against w past).2 (p'.against w' past').2 := by
  induction h generalizing past past' with
  | done h => exact ⟨.nil, h⟩
  | @ask q _ _ _ ih =>
    -- The pasts are alike up to here, so the next answers are, and the pasts stay alike with them.
    have same := worlds past past' before q
    have longer := List.rel_append before (.cons (.mk same) .nil)
    obtain ⟨events, result⟩ := ih _ _ same longer
    exact ⟨.cons (.mk same) events, result⟩

theorem map_query {es es' : List I.Event} (h : List.Forall₂ (Alike A) es es') :
    es.map (·.query) = es'.map (·.query) := by
  induction h with
  | nil => rfl
  | cons first _ ih =>
    cases first
    rw [List.map_cons, List.map_cons, ih]

/-- Programs that agree on their results ask the same in both worlds and end in the same way. -/
theorem Agrees.seen_eq {p p' : Program I α} {w w' : I.World} (h : Agrees A Eq p p')
    (worlds : AlikeWorlds A w w') : p.seen w = p'.seen w' := by
  obtain ⟨events, result⟩ := h.against worlds .nil
  exact Prod.ext (map_query events) result

end Program

end Tenancy
