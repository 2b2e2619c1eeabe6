import Tenancy.Proofs.Provider.Answers
import Tenancy.Proofs.Work.Calls
import Tenancy.Realm.Lifecycle

/-!
# Retiring a realm again

A realm is looked for and, if it is there, removed. Neither call takes a 404 for a failure. So if
there is a token, the provider can be requested, and what is sent is answered by a 404 or by a success
that says what it should, the realm is retired: it does not matter how much of it was left.
-/

namespace Tenancy

open Session Work Provider

/-- The answer to a request is a 404, or a success that spells a realm if the request looks for one. -/
def Settles (q : Http.Request) (o : Http.Outcome) : Prop :=
  ∃ reply, o = .ok reply ∧ (reply.status = .notFound ∨ reply.status.isSuccess = true ∧
    (q.method = .get → ∃ bytes realm, reply.body = .ok bytes ∧
      Wire.Realm.codec.read (Utf8.glyphs bytes) = .ok realm))

variable {e : Endpoint} {c : Call} {name : String} {t t' : Token} {slot slot' : TokenSlot}
  {es : List Facility.Event} {js rest taken rest' : List Outside.Event} {q : Http.Request}
  {o : Http.Outcome}

/-! ## One call -/

/-- Such a call succeeds if its request settles. -/
theorem Provider.Retires.answer (h : Retires name c) (request : c.request e.base t = .ok q)
    (settles : Settles q o) : ∃ v, c.answer o = .ok v := by
  obtain ⟨d, draft, made⟩ := Call.requested request
  obtain ⟨reply, rfl, settled⟩ := settles
  rcases h with rfl | rfl
  · have get : q.method = .get := by
      cases draft
      exact made.method
    obtain ⟨judges, spells⟩ := (Call.answer_classifies (.findRealm name)).heard
    rcases settled with missing | ⟨success, spelt⟩
    · exact ⟨none, judges.absent none rfl reply (Reception.notFound_iff.mp missing)⟩
    · obtain ⟨bytes, realm, body, spells_realm⟩ := spelt get
      exact ⟨some realm, (spells reply bytes success body).1 realm spells_realm⟩
  · obtain ⟨judges, blind⟩ := (Call.answer_classifies (.deleteRealm name)).heard
    rcases settled with missing | ⟨success, _⟩
    · exact ⟨false, judges.absent false rfl reply (Reception.notFound_iff.mp missing)⟩
    · exact ⟨true, blind reply success⟩

theorem Provider.Retires.performed (h : Retires name c) (serves : e.base.ServesRealm name)
    (valid : Http.isHeaderValue t = true) {a : Except ProviderError c.Answer}
    (run : (c.perform e.base t).Runs js a)
    (settled : ∀ q o, ⟨.exchange q, o⟩ ∈ js → q.method ≠ .post → Settles q o) : ∃ v, a = .ok v := by
  obtain ⟨q, request, sendable, method⟩ := h.request serves (Http.isHeaderValue_bearer valid)
  rw [Call.perform_eq request sendable] at run
  obtain ⟨o, js', rfl, done⟩ := run.of_ask
  obtain ⟨rfl, rfl⟩ := done.of_done
  exact h.answer request (settled q o List.mem_cons_self method)

/-! ## Tokens -/

/-- A token that was had in the beginning is the one that can be had. -/
theorem obtained_same (token : Obtained Facility.issue slot es t')
    (carried : Program.Carried e.find es js) (had : Obtained e.login.issue slot taken t) (same : js ++ rest = taken ++ rest') : t' = t := by
  cases token with
  | kept =>
    cases had
    rfl
  | issued run =>
    rw [issue_runs run] at carried
    cases had with
    | issued run' =>
      have granted : e.login.issue.Runs js (.ok t') := carried.of_single
      exact Except.ok.inj (granted.unique_of_append run' same).2

/-- A token that can be had is not refused. -/
theorem not_tokenless {f : ProviderError} (run : Facility.issue.Runs es (.error f))
    (carried : Program.Carried e.find es js) (had : Obtained e.login.issue ⟨none⟩ taken t)
    (same : js ++ rest = taken ++ rest') : False := by
  rw [issue_runs run] at carried
  cases had with
  | issued run' =>
    have refused : e.login.issue.Runs js (.error f) := carried.of_single
    cases (refused.unique_of_append run' same).2

/-- Such a call succeeds if a token can be had and what is sent settles. -/
theorem Provider.Retires.runs (h : Retires name c) (serves : e.base.ServesRealm name)
    {context : String} {r : Except Fault c.Answer} (run : (Work.call context c).Runs slot es r slot')
    (carried : Program.Carried e.find es js) (had : Obtained e.login.issue slot taken t)
    (same : js ++ rest = taken ++ rest') (valid : Http.isHeaderValue t = true)
    (settled : ∀ q o, ⟨.exchange q, o⟩ ∈ js → q.method ≠ .post → Settles q o) :
    (∃ v, r = .ok v) ∧ slot' = ⟨some t⟩ := by
  -- In any case the first attempt is made with the token that can be had, and it succeeds.
  have attempted {es₁ es₂ es₃ : List Facility.Event} {t' : Token} {a : Except Setback c.Answer}
      (token : Obtained Facility.issue slot es₁ t') (tried : (Attempt.call c t').run.Runs es₂ a)
      (carried : Program.Carried e.find (es₁ ++ (es₂ ++ es₃)) js) : t' = t ∧ ∃ v, a = .ok v := by
    obtain ⟨js₁, js', rfl, first, later⟩ := carried.of_append
    obtain ⟨js₂, js₃, rfl, second, _⟩ := later.of_append
    rw [List.append_assoc] at same
    obtain rfl := obtained_same token first had same
    obtain ⟨ans, rfl, rfl⟩ := Attempt.runs_call tried
    obtain ⟨v, rfl⟩ := h.performed serves valid second.of_single fun q o sent =>
      settled q o (List.mem_append_right _ (List.mem_append_left _ sent))
    exact ⟨rfl, v, rfl⟩
  cases Runs.of_access run with
  | tokenless refused => exact (not_tokenless refused carried had same).elim
  | @once _ es₁ es₂ _ _ token tried _ =>
    have whole : Program.Carried e.find (es₁ ++ (es₂ ++ [])) js := by rwa [List.append_nil]
    obtain ⟨rfl, v, rfl⟩ := attempted token tried whole
    exact ⟨⟨v, rfl⟩, rfl⟩
  | unrenewed token tried _ =>
    obtain ⟨_, v, rejected⟩ := attempted token tried carried
    cases rejected
  | twice token tried _ _ =>
    obtain ⟨_, v, rejected⟩ := attempted token tried carried
    cases rejected

/-! ## The retirement -/

/-- A realm is retired, however much of it was left. -/
theorem retire_settled {r : Except Fault Unit} (serves : e.base.ServesRealm name)
    (run : ((Realm.retire name).through e).Runs slot js r slot')
    (had : Obtained e.login.issue slot taken t) (same : js ++ rest = taken ++ rest')
    (valid : Http.isHeaderValue t = true)
    (settled : ∀ q o, ⟨.exchange q, o⟩ ∈ js → q.method ≠ .post → Settles q o) : r = .ok () := by
  obtain ⟨es, work, carried⟩ := runs_through run
  rcases Runs.of_bind work with ⟨f, looked, rfl⟩ | ⟨seen, es₁, es₂, slot₁, rfl, looked, after⟩
  · obtain ⟨⟨v, wrong⟩, _⟩ :=
      Retires.runs (.inl rfl) serves looked carried had same valid settled
    cases wrong
  obtain ⟨js₁, js₂, rfl, first, second⟩ := carried.of_append
  rw [List.append_assoc] at same
  obtain ⟨_, rfl⟩ := Retires.runs (.inl rfl) serves looked first had same valid
    fun q o sent => settled q o (List.mem_append_left _ sent)
  cases seen with
  | none => exact (Runs.of_pure after).2.1
  | some found =>
    rcases Runs.of_bind after with ⟨f, removed, rfl⟩ | ⟨_, es₃, es₄, slot₂, _, _, done⟩
    · have kept : js₂ ++ rest = [] ++ (js₂ ++ rest) := rfl
      obtain ⟨⟨v, wrong⟩, _⟩ := Retires.runs (.inr rfl) serves removed second (.kept t) kept valid
        fun q o sent => settled q o (List.mem_append_right _ sent)
      cases wrong
    · exact (Runs.of_pure done).2.1

/-- Where a realm was retired, requests get out. -/
theorem retire_serves (run : ((Realm.retire name).through e).Runs slot js (.ok ()) slot') :
    e.base.ServesRealm name := by
  obtain ⟨es, work, carried⟩ := runs_through run
  rcases Runs.of_bind work with ⟨f, _, wrong⟩ | ⟨seen, es₁, es₂, slot₁, rfl, looked, _⟩
  · cases wrong
  obtain ⟨t, asked⟩ := (accessed_ok_iff (Runs.of_access looked) seen).mp rfl
  obtain ⟨ks, performed, _⟩ := carried.sink (List.mem_append_left _ asked)
  exact Retires.serves (.inl rfl) performed

end Tenancy
