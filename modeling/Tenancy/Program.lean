/-!
# Programs that ask

A program over an interface is a value: it is done, or it asks a question and goes on with whatever
the answer is. Nothing is assumed about who answers, so what holds of a program holds against every
world it may meet. Running a program takes a monad that answers its questions; carrying it over
takes a program over another interface for each of them.
-/

namespace Tenancy

/-- The questions that may be asked and the answers that each of them has. -/
structure Interface where
  Query : Type
  Answer : Query → Type

/-- A program that asks questions of an interface and ends with a value. -/
inductive Program (I : Interface) (α : Type) where
  | done (value : α)
  | ask (query : I.Query) (next : I.Answer query → Program I α)

namespace Program

variable {I J : Interface} {α β : Type} {m : Type → Type}

/-- Goes on with another program once the first one is done. -/
def bind (f : α → Program I β) : Program I α → Program I β
  | .done v => f v
  | .ask q next => .ask q fun a => (next a).bind f

instance : Monad (Program I) where
  pure := .done
  bind p f := p.bind f

/-- Asks one question. -/
def query (q : I.Query) : Program I (I.Answer q) := .ask q .done

/-- Runs a program in a monad that answers its questions. -/
def run [Monad m] (answer : (q : I.Query) → m (I.Answer q)) : Program I α → m α
  | .done v => pure v
  | .ask q next => do
    let a ← answer q
    (next a).run answer

/-- The program over another interface, each question replaced by a program that finds its
answer. -/
def via (find : (q : I.Query) → Program J (I.Answer q)) (p : Program I α) : Program J α :=
  p.run find

theorem bind_pure (p : Program I α) : p.bind .done = p := by
  induction p with
  | done v => rfl
  | ask q next ih => simp only [bind, ih]

theorem bind_assoc {γ : Type} (p : Program I α) (f : α → Program I β) (g : β → Program I γ) :
    (p.bind f).bind g = p.bind fun v => (f v).bind g := by
  induction p with
  | done v => rfl
  | ask q next ih => simp only [bind, ih]

instance : LawfulMonad (Program I) :=
  LawfulMonad.mk' (Program I) (fun p => bind_pure p) (fun _ _ => rfl)
    (fun p f g => bind_assoc p f g)

/-- Running a program in two parts is running one after the other. -/
theorem run_bind [Monad m] [LawfulMonad m] (answer : (q : I.Query) → m (I.Answer q))
    (p : Program I α) (f : α → Program I β) :
    (p.bind f).run answer = p.run answer >>= fun v => (f v).run answer := by
  induction p with
  | done v => simp only [bind, run, pure_bind]
  | ask q next ih => simp only [bind, run, LawfulMonad.bind_assoc, ih]

end Program

end Tenancy
