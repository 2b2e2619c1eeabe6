import Tenancy.Listener
import Tenancy.Proofs.Program.Runs
import Tenancy.Proofs.Provider.Answers
import Tenancy.Proofs.Uuid.Text

/-!
# Requests to the registry

A registry action is one request, judged by the status of its answer. The request gets out if its URL
can be requested and the caller's token, if there is one, can stand in a header; otherwise the action
fails and nobody outside notices.
-/

namespace Tenancy

theorem Uuid.isHeaderValue_text (u : Uuid) : Http.isHeaderValue u.text = true := by
  simp only [Http.isHeaderValue, List.all_eq_true]
  intro c hc
  rcases u.text_chars c hc with digit | rfl
  · have plain := digit.plain.2.2.2
    simp only [Bool.or_eq_true, Bool.not_eq_true', decide_eq_true_eq, Bool.or_eq_false_iff,
      decide_eq_false_iff_not]
    omega
  · rfl

namespace Registry.Remote

variable {α : Type} {r : Remote} {ctx : RequestContext} {method : Http.Method}
  {tenant : Option String} {body : Option Descriptor} {q : Http.Request}

/-- What an action comes to by what comes of its request. -/
def verdict (action : String) (judge : Status → Option α) : Http.Outcome → Except Fault α
  | .error cause => .error (failure action cause.message)
  | .ok reply =>
    match judge reply.status with
    | some v => .ok v
    | none => .error (failure action reply.status.text)

theorem perform_eq (action : String) (r : Http.Request) (judge : Status → Option α) :
    perform action (.ok r) judge =
      (Outside.send r).bind fun o => .done (verdict action judge o) := by
  refine congrArg (Outside.send r).bind (funext fun o => ?_)
  cases o with
  | error cause => rfl
  | ok reply =>
    simp only [verdict]
    cases judge reply.status <;> rfl

theorem verdict_some {action : String} {judge : Status → Option α} {reply : Http.Reply} {v : α}
    (h : judge reply.status = some v) : verdict action judge (.ok reply) = .ok v := by
  simp only [verdict, h]

theorem verdict_none {action : String} {judge : Status → Option α} {reply : Http.Reply}
    (h : judge reply.status = none) :
    verdict action judge (.ok reply) = .error (failure action reply.status.text) := by
  simp only [verdict, h]

/-! ## What is sent -/

/-- How a request is made. -/
structure Asks (r : Remote) (ctx : RequestContext) (method : Http.Method) (tenant : Option String)
    (body : Option Descriptor) (q : Http.Request) : Prop where
  method : q.method = method
  url : r.base.join? (path tenant) = some q.url
  body : q.body = body.map fun d => (Descriptor.codec.encode d).compact
  headers : (∀ h ∈ q.headers, Http.isHeaderValue h.2 = true) ↔
    ctx.callerToken.all Http.isHeaderValue = true

theorem asks_of_request (h : r.request ctx method tenant body = .ok q) :
    r.Asks ctx method tenant body q := by
  have json : Http.isHeaderValue "application/json" = true := rfl
  have id := ctx.requestId.isHeaderValue_text
  unfold request at h
  split at h
  · cases h
  · next u joined =>
    cases h
    refine ⟨?_, ?_, ?_, ?_⟩
    · cases body <;> cases ctx.callerToken <;> rfl
    · rw [joined]
      cases body <;> cases ctx.callerToken <;> rfl
    · cases body <;> cases ctx.callerToken <;> rfl
    · cases body <;> cases token : ctx.callerToken <;>
        simp [Http.Request.withBody, Http.Request.withHeader, Http.Request.bare, json, id]

theorem request_of_join {u : Url} (joined : r.base.join? (path tenant) = some u) :
    ∃ q, r.request ctx method tenant body = .ok q := by
  simp only [request, joined]
  exact ⟨_, rfl⟩

theorem request_failed {f : Fault} (h : r.request ctx method tenant body = .error f) :
    ∃ m, f = .registry m := by
  unfold request at h
  split at h
  · cases h
    exact ⟨_, rfl⟩
  · cases h

/-- Requests about a tenant, or about all of them, get out for a context. -/
def Reaches (r : Remote) (ctx : RequestContext) (tenant : Option String) : Prop :=
  (∃ u ∈ r.base.join? (path tenant), u.Requestable) ∧
    ctx.callerToken.all Http.isHeaderValue = true

instance : Decidable (r.Reaches ctx tenant) :=
  inferInstanceAs (Decidable ((∃ u ∈ r.base.join? (path tenant), u.Requestable) ∧
    ctx.callerToken.all Http.isHeaderValue = true))

theorem Asks.sendable (h : r.Asks ctx method tenant body q) :
    q.defect? = none ↔ r.Reaches ctx tenant := by
  rw [Http.Request.defect?_eq_none, h.headers, Reaches, h.url]
  simp [and_comm]

/-! ## What an action comes to -/

theorem perform_sent (reaches : r.Reaches ctx tenant) :
    ∃ q, r.request ctx method tenant body = .ok q ∧
      ∀ action (judge : Status → Option α), perform action (r.request ctx method tenant body) judge =
        .ask (I := Outside) (.exchange q) fun o => .done (verdict action judge o) := by
  obtain ⟨u, joined, _⟩ := reaches.1
  obtain ⟨q, made⟩ : ∃ q, r.request ctx method tenant body = .ok q := request_of_join joined
  have sendable := (asks_of_request made).sendable.mpr reaches
  refine ⟨q, made, fun action judge => ?_⟩
  rw [made, perform_eq]
  simp only [Outside.send, sendable]
  rfl

theorem runs_perform (reaches : r.Reaches ctx tenant) {action : String} {judge : Status → Option α}
    {es : List Outside.Event} {v : Except Fault α}
    (h : (perform action (r.request ctx method tenant body) judge).Runs es v) :
    ∃ q o, r.request ctx method tenant body = .ok q ∧ es = [⟨.exchange q, o⟩] ∧
      v = verdict action judge o := by
  obtain ⟨q, made, sent⟩ := perform_sent reaches
  rw [sent] at h
  obtain ⟨o, es', rfl, rest⟩ := h.of_ask
  obtain ⟨rfl, rfl⟩ := rest.of_done
  exact ⟨q, o, made, rfl, rfl⟩

theorem perform_unsent (stuck : ¬ r.Reaches ctx tenant) (action : String)
    (judge : Status → Option α) :
    ∃ m, perform action (r.request ctx method tenant body) judge = .done (.error (.registry m)) := by
  cases made : r.request ctx method tenant body with
  | error f =>
    obtain ⟨m, rfl⟩ := request_failed made
    exact ⟨m, rfl⟩
  | ok q =>
    obtain ⟨cause, defect⟩ :=
      Option.ne_none_iff_exists'.mp (mt (asks_of_request made).sendable.mp stuck)
    rw [perform_eq]
    simp only [Outside.send, defect]
    exact ⟨_, rfl⟩

end Registry.Remote

end Tenancy
