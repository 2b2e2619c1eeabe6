import Tenancy.Proofs.Program.Agreement
import Tenancy.Session

/-!
# Sessions that agree

The body of an answer that is no success is kept in failures for diagnostics. Failures that differ in
nothing else are alike: they read the same and are published as the same. Sessions agree if they start
from the same token, ask the same as long as they are answered alike, and end with the same token and
with values that are related or failures that are alike. A call with a token agrees if requesting a
token does and every attempt, whichever of them is the last.
-/

namespace Tenancy

/-- Errors that differ at most in the body of an answer. -/
inductive ProviderError.Alike : ProviderError → ProviderError → Prop
  | same (e : ProviderError) : Alike e e
  | status (s : Status) (body body' : String) : Alike (.status s body) (.status s body')

/-- Failures that differ at most in the body of an answer. -/
inductive Fault.Alike : Fault → Fault → Prop
  | same (f : Fault) : Alike f f
  | provider (m : String) {e e' : ProviderError} (h : e.Alike e') :
      Alike (.provider m (some e)) (.provider m (some e'))

/-- Setbacks that differ at most in the body of an answer. -/
inductive Setback.Alike : Setback → Setback → Prop
  | raw {e e' : ProviderError} (h : e.Alike e') : Alike (.raw e) (.raw e')
  | settled {f f' : Fault} (h : f.Alike f') : Alike (.settled f) (.settled f')

theorem ProviderError.Alike.message {e e' : ProviderError} (h : e.Alike e') :
    e.message = e'.message := by cases h <;> rfl

theorem Fault.Alike.publish {f f' : Fault} (h : f.Alike f') : f.publish = f'.publish := by
  cases h with
  | same f => rfl
  | provider m h => simp only [Fault.publish, h.message]

theorem Setback.Alike.fault {s s' : Setback} (h : s.Alike s') (context : String) :
    (s.fault context).Alike (s'.fault context) := by
  cases h with
  | raw h => exact .provider context h
  | settled h => exact h

theorem Setback.Alike.unauthorized {s s' : Setback} (h : s.Alike s') :
    s = .raw .unauthorized ↔ s' = .raw .unauthorized := by
  cases h with
  | raw h => cases h <;> simp
  | settled h => simp

theorem Matched.refl {ε α : Type} {F : ε → ε → Prop} {R : α → α → Prop} (failures : ∀ e, F e e)
    (values : ∀ v, R v v) (x : Except ε α) : Matched F R x x := by
  cases x with
  | ok v => exact .ok (values v)
  | error e => exact .error (failures e)

theorem Matched.mapError {ε ε' δ δ' α α' : Type} {F : ε → ε' → Prop} {G : δ → δ' → Prop}
    {R : α → α' → Prop} {x : Except ε α} {x' : Except ε' α'} {f : ε → δ} {f' : ε' → δ'}
    (h : Matched F R x x') (image : ∀ e e', F e e' → G (f e) (f' e')) :
    Matched G R (x.mapError f) (x'.mapError f') := by
  cases h with
  | ok h => exact .ok h
  | error h => exact .error (image _ _ h)

namespace Session

variable {I : Interface} {A : I.Likeness} {ε ε' α α' β β' : Type} {F : ε → ε → Prop}
  {G : ε' → ε' → Prop} {R : α → α' → Prop} {S : β → β' → Prop}

/-- From every slot, the sessions ask the same while their answers are alike, and end alike. -/
def Agrees (A : I.Likeness) (F : ε → ε → Prop) (R : α → α' → Prop) (s : Session (Program I) ε α)
    (s' : Session (Program I) ε α') : Prop :=
  ∀ slot, Program.Agrees A (fun x x' => Matched F R x.1 x'.1 ∧ x.2 = x'.2) (s.play slot)
    (s'.play slot)

variable {s : Session (Program I) ε α} {s' : Session (Program I) ε α'}

theorem Agrees.pure {v : α} {v' : α'} (h : R v v') :
    Agrees A F R (Pure.pure v) (Pure.pure v') := fun _ => .done ⟨.ok h, rfl⟩

theorem Agrees.throw {e e' : ε} (h : F e e') :
    Agrees A F R (MonadExcept.throw e) (MonadExcept.throw e') := fun _ => .done ⟨.error h, rfl⟩

theorem Agrees.bind {f : α → Session (Program I) ε β} {f' : α' → Session (Program I) ε β'}
    (h : Agrees A F R s s') (rest : ∀ v v', R v v' → Agrees A F S (f v) (f' v')) :
    Agrees A F S (s >>= f) (s' >>= f') := by
  intro slot
  rw [play_bind, play_bind]
  refine (h slot).bind fun x x' related => ?_
  obtain ⟨r, slot₁⟩ := x
  obtain ⟨r', slot₁'⟩ := x'
  obtain ⟨matched, rfl⟩ := related
  cases matched with
  | ok h => exact rest _ _ h slot₁
  | error h => exact .done ⟨.error h, rfl⟩

theorem Agrees.lift {x : Program I (Except ε α)} {x' : Program I (Except ε α')}
    (h : Program.Agrees A (Matched F R) x x') : Agrees A F R (lift x) (lift x') := fun _ =>
  h.bind fun _ _ matched => .done ⟨matched, rfl⟩

theorem Agrees.mapFailure {f f' : ε → ε'} (h : Agrees A F R s s')
    (image : ∀ e e', F e e' → G (f e) (f' e')) :
    Agrees A G R (s.mapFailure f) (s'.mapFailure f') := fun slot =>
  (h slot).bind fun _ _ related => .done ⟨related.1.mapError image, related.2⟩

/-! ## Calls with a token -/

variable {issue : Program I (Except ProviderError Token)}

theorem Agrees.renew (issued : Program.Agrees A (Matched ProviderError.Alike Eq) issue issue) :
    Agrees A ProviderError.Alike Eq (renew issue) (renew issue) := by
  intro slot
  refine issued.bind fun r r' matched => ?_
  cases matched with
  | ok h =>
    cases h
    exact .done ⟨.ok rfl, rfl⟩
  | error h => exact .done ⟨.error h, rfl⟩

theorem Agrees.current (issued : Program.Agrees A (Matched ProviderError.Alike Eq) issue issue) :
    Agrees A ProviderError.Alike Eq (current issue) (current issue) := by
  intro slot
  obtain ⟨_ | t⟩ := slot
  · exact Agrees.renew issued ⟨none⟩
  · exact .done ⟨.ok rfl, rfl⟩

theorem Agrees.access {context : String} {attempt : Token → Program I (Except Setback α)}
    {attempt' : Token → Program I (Except Setback α')}
    (issued : Program.Agrees A (Matched ProviderError.Alike Eq) issue issue)
    (tried : ∀ t, Program.Agrees A (Matched Setback.Alike R) (attempt t) (attempt' t)) :
    Agrees A Fault.Alike R (access issue context attempt) (access issue context attempt') := by
  have blamed (e e' : ProviderError) (h : e.Alike e') :
      Fault.Alike (.provider context (some e)) (.provider context (some e')) := .provider context h
  have retried : Agrees A Fault.Alike R
      ((Session.renew issue).mapFailure (fun e => Fault.provider context (some e)) >>= fun t =>
        Session.lift ((·.mapError (Setback.fault context)) <$> attempt t))
      ((Session.renew issue).mapFailure (fun e => Fault.provider context (some e)) >>= fun t =>
        Session.lift ((·.mapError (Setback.fault context)) <$> attempt' t)) := by
    refine ((Agrees.renew issued).mapFailure blamed).bind fun t t' same => ?_
    cases same
    exact .lift ((tried t).map fun a a' matched => matched.mapError fun _ _ h => h.fault context)
  refine ((Agrees.current issued).mapFailure blamed).bind fun t t' same => ?_
  cases same
  -- The attempt within a session is its outcome, as a value to look at.
  have looked : Agrees A Fault.Alike (Matched Setback.Alike R)
      (Session.lift (Except.ok <$> attempt t)) (Session.lift (Except.ok <$> attempt' t)) :=
    .lift ((tried t).map fun _ _ matched => .ok matched)
  refine looked.bind fun a a' matched => ?_
  cases matched with
  | ok h => exact .pure h
  | @error x x' h =>
    by_cases rejected : x = .raw .unauthorized
    · have rejected' := h.unauthorized.mp rejected
      subst rejected rejected'
      exact retried
    · have heard : x' ≠ .raw .unauthorized := mt h.unauthorized.mpr rejected
      split
      · next first => cases first
      · next first => exact (rejected (by cases first; rfl)).elim
      · next first =>
        cases first
        exact .throw (h.fault context)

end Session

end Tenancy
