import Tenancy.Fault
import Tenancy.Outside

/-!
# Sessions

Calls to the identity provider need a token. A session keeps the last one that was issued and hands
it to every call until a call finds it rejected; then it is renewed, and that call is tried once
more. No expiry is tracked: a token is good until the provider says otherwise.

Whatever goes wrong with a call is reported once, under a text that says what was attempted. A call
that already ends with a failure of its own keeps it.
-/

namespace Tenancy

/-- The token that a session keeps, if one was issued. -/
structure TokenSlot where
  token : Option Token
  deriving DecidableEq, Repr

/-- No token yet. -/
def TokenSlot.empty : TokenSlot := ⟨none⟩

/-- The slot in a log line; the token is never shown. -/
def TokenSlot.summary (s : TokenSlot) : String :=
  "AdminTokenCache \x7b cached: " ++ (if s.token.isSome then "true" else "false") ++ ", .. \x7d"

/-- A computation that keeps a token and may fail; what it has kept survives the failure. -/
abbrev Session (m : Type → Type) (ε α : Type) := ExceptT ε (StateT TokenSlot m) α

/-- Why an attempt at a call failed: an error of the provider, or a failure in its own right. -/
inductive Setback where
  | raw (error : ProviderError)
  | settled (fault : Fault)
  deriving DecidableEq, Repr

/-- The failure that a setback amounts to under a text that says what was attempted. -/
def Setback.fault (context : String) : Setback → Fault
  | .raw e => .provider context (some e)
  | .settled f => f

namespace Session

variable {m : Type → Type} [Monad m] {ε ε' α : Type}

/-- A session from a state-passing function. -/
def ofFn (f : TokenSlot → m (Except ε α × TokenSlot)) : Session m ε α := ExceptT.mk f

/-- What a session does with a slot: how it ends, and what it keeps. -/
def play (s : Session m ε α) (slot : TokenSlot) : m (Except ε α × TokenSlot) := s.run.run slot

/-- A computation outside the session. -/
def lift (x : m (Except ε α)) : Session m ε α := ofFn fun slot => do return (← x, slot)

/-- The session with another account of its failures. -/
def mapFailure (f : ε → ε') (s : Session m ε α) : Session m ε' α :=
  ofFn fun slot => do
    let (r, slot) ← s.play slot
    return (r.mapError f, slot)

/-- The session carried out in another monad. -/
def hoist {n : Type → Type} [Monad n] (f : {β : Type} → m β → n β) (s : Session m ε α) :
    Session n ε α :=
  ofFn fun slot => f (s.play slot)

/-- Requests a token and keeps it; a failed request leaves the kept one alone. -/
def renew (issue : m (Except ProviderError Token)) : Session m ProviderError Token :=
  ofFn fun slot => do
    match ← issue with
    | .ok t => return (.ok t, ⟨some t⟩)
    | .error e => return (.error e, slot)

/-- The kept token, or a new one if none is kept. -/
def current (issue : m (Except ProviderError Token)) : Session m ProviderError Token :=
  ofFn fun slot =>
    match slot.token with
    | some t => return (.ok t, slot)
    | none => (renew issue).play slot

/-- Forgets the kept token. -/
def forget : Session m ε Unit := ofFn fun _ => return (.ok (), .empty)

/-- Makes a call with a token. If the token is rejected it is renewed, and the call is made once
more. -/
def access (issue : m (Except ProviderError Token)) (context : String)
    (attempt : Token → m (Except Setback α)) : Session m Fault α := do
  let blame (e : ProviderError) : Fault := .provider context (some e)
  let token ← (current issue).mapFailure blame
  match ← (lift (Except.ok <$> attempt token) : Session m Fault _) with
  | .ok v => return v
  | .error (.raw .unauthorized) =>
    let token ← (renew issue).mapFailure blame
    lift ((·.mapError (Setback.fault context)) <$> attempt token)
  | .error s => throw (s.fault context)

/-! ## What a session does with its slot -/

@[simp]
theorem play_pure (v : α) (slot : TokenSlot) :
    (pure v : Session m ε α).play slot = pure (.ok v, slot) := rfl

@[simp]
theorem play_throw (e : ε) (slot : TokenSlot) :
    (throw e : Session m ε α).play slot = pure (.error e, slot) := rfl

/-- The second part goes on with the slot that the first one leaves, unless that one failed. -/
@[simp]
theorem play_bind {β : Type} (s : Session m ε α) (f : α → Session m ε β) (slot : TokenSlot) :
    (s >>= f).play slot = s.play slot >>= fun
      | (.ok v, slot) => (f v).play slot
      | (.error e, slot) => pure (.error e, slot) := by
  refine congrArg (s.play slot >>= ·) (funext fun p => ?_)
  rcases p with ⟨_ | v, slot⟩ <;> rfl

@[simp]
theorem play_lift (x : m (Except ε α)) (slot : TokenSlot) :
    (lift x).play slot = x >>= fun r => pure (r, slot) := rfl

end Session

end Tenancy
