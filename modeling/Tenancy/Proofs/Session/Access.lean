import Tenancy.Creation
import Tenancy.Proofs.Program.Runs

/-!
# Runs of sessions

A session is run from a slot to a slot. It goes on after each part that succeeds and stops at the
first one that fails, with that part's failure. `Accessed` says once what a call with a token can
come to; whatever is proved about calls is read off its four cases.
-/

namespace Tenancy.Session

variable {I : Interface} {ε ε' α β : Type}

/-- Asked and answered as in the list of events, the session ends with the result and leaves the
second slot behind. -/
def Runs (x : Session (Program I) ε α) (slot : TokenSlot) (es : List I.Event) (r : Except ε α)
    (slot' : TokenSlot) : Prop :=
  (x.play slot).Runs es (r, slot')

variable {slot slot' : TokenSlot} {es : List I.Event}

theorem Runs.of_pure {v : α} {r : Except ε α}
    (h : (pure v : Session (Program I) ε α).Runs slot es r slot') :
    es = [] ∧ r = .ok v ∧ slot' = slot := by
  rw [Runs, play_pure] at h
  obtain ⟨rfl, he⟩ := Program.Runs.of_done h
  cases he
  exact ⟨rfl, rfl, rfl⟩

theorem Runs.of_throw {e : ε} {r : Except ε α}
    (h : (throw e : Session (Program I) ε α).Runs slot es r slot') :
    es = [] ∧ r = .error e ∧ slot' = slot := by
  rw [Runs, play_throw] at h
  obtain ⟨rfl, he⟩ := Program.Runs.of_done h
  cases he
  exact ⟨rfl, rfl, rfl⟩

theorem Runs.of_lift {x : Program I (Except ε α)} {r : Except ε α}
    (h : (lift x).Runs slot es r slot') : x.Runs es r ∧ slot' = slot := by
  rw [Runs, play_lift] at h
  obtain ⟨es₁, es₂, u, rfl, first, second⟩ := Program.Runs.of_bind h
  obtain ⟨rfl, he⟩ := second.of_done
  cases he
  exact ⟨by rwa [List.append_nil], rfl⟩

/-- The first part fails and is all there is, or it succeeds and the second part goes on. -/
theorem Runs.of_bind {x : Session (Program I) ε α} {f : α → Session (Program I) ε β}
    {r : Except ε β} (h : (x >>= f).Runs slot es r slot') :
    (∃ e, x.Runs slot es (.error e) slot' ∧ r = .error e) ∨
      ∃ v es₁ es₂ slot₁, es = es₁ ++ es₂ ∧ x.Runs slot es₁ (.ok v) slot₁ ∧
        (f v).Runs slot₁ es₂ r slot' := by
  rw [Runs, play_bind] at h
  obtain ⟨es₁, es₂, ⟨u, slot₁⟩, rfl, first, second⟩ := Program.Runs.of_bind h
  cases u with
  | error e =>
    obtain ⟨rfl, he⟩ := second.of_done
    cases he
    exact .inl ⟨e, by rwa [List.append_nil], rfl⟩
  | ok v => exact .inr ⟨v, es₁, es₂, slot₁, rfl, first, second⟩

theorem Runs.of_mapFailure {x : Session (Program I) ε α} {f : ε → ε'} {r : Except ε' α}
    (h : (x.mapFailure f).Runs slot es r slot') :
    ∃ r', r = r'.mapError f ∧ x.Runs slot es r' slot' := by
  obtain ⟨es₁, es₂, ⟨r', slot₁⟩, rfl, first, second⟩ := Program.Runs.of_bind h
  obtain ⟨rfl, he⟩ := second.of_done
  cases he
  exact ⟨r', rfl, by rwa [List.append_nil]⟩

theorem Runs.of_mapFailure_ok {x : Session (Program I) ε α} {f : ε → ε'} {v : α}
    (h : (x.mapFailure f).Runs slot es (.ok v) slot') : x.Runs slot es (.ok v) slot' := by
  obtain ⟨r', hr, run⟩ := Runs.of_mapFailure h
  cases r' with
  | ok v' => cases hr; exact run
  | error e => cases hr

theorem Runs.of_mapFailure_error {x : Session (Program I) ε α} {f : ε → ε'} {e : ε'}
    (h : (x.mapFailure f).Runs slot es (.error e) slot') :
    ∃ e', e = f e' ∧ x.Runs slot es (.error e') slot' := by
  obtain ⟨r', hr, run⟩ := Runs.of_mapFailure h
  cases r' with
  | ok v => cases hr
  | error e' => cases hr; exact ⟨e', rfl, run⟩

/-! ## Tokens -/

variable {issue : Program I (Except ProviderError Token)}

theorem Runs.of_renew_ok {t : Token} (h : (renew issue).Runs slot es (.ok t) slot') :
    issue.Runs es (.ok t) ∧ slot' = ⟨some t⟩ := by
  obtain ⟨es₁, es₂, u, rfl, first, second⟩ := Program.Runs.of_bind h
  cases u with
  | ok t' =>
    obtain ⟨rfl, he⟩ := second.of_done
    cases he
    exact ⟨by rwa [List.append_nil], rfl⟩
  | error e => cases second.of_done.2

theorem Runs.of_renew_error {e : ProviderError}
    (h : (renew issue).Runs slot es (.error e) slot') :
    issue.Runs es (.error e) ∧ slot' = slot := by
  obtain ⟨es₁, es₂, u, rfl, first, second⟩ := Program.Runs.of_bind h
  cases u with
  | ok t => cases second.of_done.2
  | error e' =>
    obtain ⟨rfl, he⟩ := second.of_done
    cases he
    exact ⟨by rwa [List.append_nil], rfl⟩

/-- A token at hand: the kept one, or one that was issued because none was kept. -/
inductive Obtained (issue : Program I (Except ProviderError Token)) :
    TokenSlot → List I.Event → Token → Prop
  | kept (t : Token) : Obtained issue ⟨some t⟩ [] t
  | issued {es : List I.Event} {t : Token} (run : issue.Runs es (.ok t)) :
      Obtained issue ⟨none⟩ es t

theorem Runs.of_current_ok {t : Token} (h : (current issue).Runs slot es (.ok t) slot') :
    slot' = ⟨some t⟩ ∧ Obtained issue slot es t := by
  obtain ⟨_ | t'⟩ := slot
  · have renewed : (renew issue).Runs ⟨none⟩ es (.ok t) slot' := h
    obtain ⟨run, rfl⟩ := Runs.of_renew_ok renewed
    exact ⟨rfl, .issued run⟩
  · obtain ⟨rfl, he⟩ := Program.Runs.of_done h
    cases he
    exact ⟨rfl, .kept t⟩

theorem Runs.of_current_error {e : ProviderError}
    (h : (current issue).Runs slot es (.error e) slot') :
    slot = ⟨none⟩ ∧ slot' = ⟨none⟩ ∧ issue.Runs es (.error e) := by
  obtain ⟨_ | t'⟩ := slot
  · have renewed : (renew issue).Runs ⟨none⟩ es (.error e) slot' := h
    obtain ⟨run, rfl⟩ := Runs.of_renew_error renewed
    exact ⟨rfl, rfl, run⟩
  · obtain ⟨_, he⟩ := Program.Runs.of_done h
    cases he

/-! ## Calls -/

/-- What a call with a token can come to. -/
inductive Accessed (issue : Program I (Except ProviderError Token)) (context : String)
    (attempt : Token → Program I (Except Setback α)) :
    TokenSlot → List I.Event → Except Fault α → TokenSlot → Prop
  /-- There is no token to be had. -/
  | tokenless {es : List I.Event} {e : ProviderError} (issued : issue.Runs es (.error e)) :
      Accessed issue context attempt ⟨none⟩ es (.error (.provider context (some e))) ⟨none⟩
  /-- The first attempt is the last one, as its token was not rejected. -/
  | once {slot : TokenSlot} {es₁ es₂ : List I.Event} {t : Token} {a : Except Setback α}
      (token : Obtained issue slot es₁ t) (tried : (attempt t).Runs es₂ a)
      (heard : a ≠ .error (.raw .unauthorized)) :
      Accessed issue context attempt slot (es₁ ++ es₂) (a.mapError (Setback.fault context))
        ⟨some t⟩
  /-- The token was rejected and could not be renewed. -/
  | unrenewed {slot : TokenSlot} {es₁ es₂ es₃ : List I.Event} {t : Token} {e : ProviderError}
      (token : Obtained issue slot es₁ t)
      (tried : (attempt t).Runs es₂ (.error (.raw .unauthorized)))
      (renewed : issue.Runs es₃ (.error e)) :
      Accessed issue context attempt slot (es₁ ++ (es₂ ++ es₃))
        (.error (.provider context (some e))) ⟨some t⟩
  /-- The token was rejected and renewed, and the second attempt is the last one. -/
  | twice {slot : TokenSlot} {es₁ es₂ es₃ es₄ : List I.Event} {t t' : Token} {a : Except Setback α}
      (token : Obtained issue slot es₁ t)
      (tried : (attempt t).Runs es₂ (.error (.raw .unauthorized)))
      (renewed : issue.Runs es₃ (.ok t')) (retried : (attempt t').Runs es₄ a) :
      Accessed issue context attempt slot (es₁ ++ (es₂ ++ (es₃ ++ es₄)))
        (a.mapError (Setback.fault context)) ⟨some t'⟩

/-- An attempt within a session is its outcome, as a value to look at. -/
theorem Runs.of_attempt {x : Program I (Except Setback α)} {r : Except Fault (Except Setback α)}
    (h : (lift (Except.ok <$> x) : Session (Program I) Fault _).Runs slot es r slot') :
    ∃ a, r = .ok a ∧ slot' = slot ∧ x.Runs es a := by
  obtain ⟨run, rfl⟩ := Runs.of_lift h
  obtain ⟨a, rfl, tried⟩ := run.of_map
  exact ⟨a, rfl, rfl, tried⟩

theorem Runs.of_access {context : String} {attempt : Token → Program I (Except Setback α)}
    {r : Except Fault α} (h : (access issue context attempt).Runs slot es r slot') :
    Accessed issue context attempt slot es r slot' := by
  rcases Runs.of_bind h with ⟨f, first, rfl⟩ | ⟨t, es₁, es', slot₁, rfl, first, rest⟩
  · obtain ⟨e, rfl, run⟩ := Runs.of_mapFailure_error first
    obtain ⟨rfl, rfl, issued⟩ := Runs.of_current_error run
    exact .tokenless issued
  obtain ⟨rfl, token⟩ := Runs.of_current_ok (Runs.of_mapFailure_ok first)
  rcases Runs.of_bind rest with ⟨f, second, _⟩ | ⟨o, es₂, es₃, slot₂, rfl, second, rest⟩
  · obtain ⟨a, hr, _⟩ := Runs.of_attempt second
    cases hr
  obtain ⟨a, ha, rfl, tried⟩ := Runs.of_attempt second
  cases ha
  split at rest
  case h_1 v =>
    obtain ⟨rfl, rfl, rfl⟩ := Runs.of_pure rest
    rw [List.append_nil]
    exact .once token tried (by nofun)
  case h_2 =>
    rcases Runs.of_bind rest with ⟨f, third, rfl⟩ | ⟨t', es₄, es₅, slot₃, rfl, third, rest⟩
    · obtain ⟨e, rfl, run⟩ := Runs.of_mapFailure_error third
      obtain ⟨renewed, rfl⟩ := Runs.of_renew_error run
      exact .unrenewed token tried renewed
    · obtain ⟨renewed, rfl⟩ := Runs.of_renew_ok (Runs.of_mapFailure_ok third)
      obtain ⟨run, rfl⟩ := Runs.of_lift rest
      obtain ⟨a, rfl, retried⟩ := run.of_map
      exact .twice token tried renewed retried
  case h_3 s hs =>
    obtain ⟨rfl, rfl, rfl⟩ := Runs.of_throw rest
    rw [List.append_nil]
    exact .once token tried fun he => hs (by cases he; rfl)

theorem mapError_ok {ε ε' : Type} {a : Except ε α} {f : ε → ε'} {v : α}
    (h : a.mapError f = .ok v) : a = .ok v := by
  cases a with
  | ok u => cases h; rfl
  | error e => cases h

/-- An access that succeeds ends with an attempt that does. -/
theorem Accessed.of_ok {context : String} {attempt : Token → Program I (Except Setback α)} {v : α}
    (h : Accessed issue context attempt slot es (.ok v) slot') :
    ∃ t before es', es = before ++ es' ∧ (attempt t).Runs es' (.ok v) := by
  generalize hr : Except.ok v = r at h
  cases h with
  | tokenless => cases hr
  | @once _ es₁ es₂ t _ _ tried => exact ⟨t, es₁, es₂, rfl, mapError_ok hr.symm ▸ tried⟩
  | unrenewed => cases hr
  | @twice _ es₁ es₂ es₃ es₄ _ t' _ _ _ _ retried =>
    exact ⟨t', es₁ ++ (es₂ ++ es₃), es₄, by simp, mapError_ok hr.symm ▸ retried⟩

/-! ## Creations -/

/-- A creation is an access whose attempts are its call, and it comes to what the receipt amounts to. -/
theorem Runs.of_create {ρ : Type} [Resource ρ] {thing : ρ} {r : Except Fault String}
    {attempt : Token → Program I (Except ProviderError Receipt)}
    (h : (create issue thing attempt).Runs slot es r slot') :
    ∃ a, Accessed issue (Resource.context thing) (fun t => (·.mapError Setback.raw) <$> attempt t)
        slot es a slot' ∧
      r = a >>= fun receipt => receipt.outcome (Resource.context thing) := by
  rcases Runs.of_bind h with ⟨e, first, rfl⟩ | ⟨receipt, es₁, es₂, slot₁, rfl, first, second⟩
  · exact ⟨.error e, Runs.of_access first, rfl⟩
  · obtain ⟨run, rfl⟩ := Runs.of_lift second
    obtain ⟨rfl, rfl⟩ := run.of_done
    exact ⟨.ok receipt, by rw [List.append_nil]; exact Runs.of_access first, rfl⟩

end Tenancy.Session
