import Tenancy.Proofs.Provider.Requests
import Tenancy.Proofs.Work.Mutations

/-!
# Requests that change something

Over the network a change is a request that carries a token and does more than read. It belongs to
one call, which sends it once or not at all, and the call finds its token rejected only by a reply
that says so. What is asked for at most twice is therefore sent at most twice, and the second time
only after such a reply; after any other one, or when the connection broke, it is not sent again.
-/

namespace Tenancy

/-- Whether an event is the exchange of a request for a change. Requests for tokens are POSTs as
well, but they carry none. -/
def Outside.mutates (j : Outside.Event) : Bool :=
  match j.query with
  | .exchange r => r.method != .get && (r.header? "authorization").isSome
  | _ => false

namespace Provider

variable {base : Url} {token : Token} {c : Call} {r : Http.Request} {o : Http.Outcome}
  {e : Endpoint} {ds ms : List Duty} {es : List Facility.Event} {js : List Outside.Event}

/-- The exchange of a request that a call for the duty makes. -/
def Serves (base : Url) (m : Duty) (j : Outside.Event) : Prop :=
  ∃ (token : Token) (c : Call) (r : Http.Request),
    c.duty = m ∧ c.request base token = .ok r ∧ j.query = .exchange r

/-- For each of the duties one request was sent, or a second one after a reply by which the token of
the first was rejected. -/
inductive Sent (base : Url) : List Duty → List Outside.Event → Prop
  | nil : Sent base [] []
  | once {m : Duty} {ms : List Duty} {j : Outside.Event} {js : List Outside.Event}
      (serves : Serves base m j) (rest : Sent base ms js) : Sent base (m :: ms) (j :: js)
  | again {m : Duty} {ms : List Duty} {r : Http.Request} {reply : Http.Reply} {j : Outside.Event}
      {js : List Outside.Event} (first : Serves base m ⟨.exchange r, .ok reply⟩)
      (rejected : reply.status = .unauthorized) (serves : Serves base m j)
      (rest : Sent base ms js) : Sent base (m :: ms) (⟨.exchange r, .ok reply⟩ :: j :: js)

theorem Call.draft_mutates {d : Draft} (h : c.draft = .ok d) :
    (d.method != .get) = c.duty.mutates := by
  cases c with
  | updatePermission realm server permission => rw [updatePermission_put h]; rfl
  | _ => cases h; rfl

theorem Call.request_mutates (h : c.request base token = .ok r) :
    Outside.mutates ⟨.exchange r, o⟩ = c.duty.mutates := by
  obtain ⟨d, draft, requested⟩ := Call.requested h
  show (r.method != .get && (r.header? "authorization").isSome) = c.duty.mutates
  rw [requested.method, Call.draft_mutates draft, requested.authorized]
  exact Bool.and_true _

/-- A question that is not for a change is answered without a request for one. -/
theorem Endpoint.runs_reading {ev : Facility.Event} (run : (e.find ev.query).Runs js ev.answer)
    (reads : Facility.mutates ev = false) : js.filter Outside.mutates = [] := by
  refine List.filter_eq_nil_iff.mpr fun j hj changes => ?_
  obtain ⟨q, o⟩ := j
  cases q with
  | exchange r =>
    have carries : r.header? "authorization" ≠ none := by
      intro h
      simp [Outside.mutates, h] at changes
    obtain ⟨token, c, rfl, hr, _, _⟩ := Endpoint.runs_exchange run hj carries
    have duty : Facility.mutates ⟨.call token c, c.answer o⟩ = true :=
      (Call.request_mutates (o := o) hr).symm.trans changes
    exact Bool.false_ne_true (reads.symm.trans duty)
  | _ => cases changes

/-- Changes are carried out by the requests for changes. -/
theorem carried_mutations (h : Program.Carried e.find es js) :
    Program.Carried e.find (es.filter Facility.mutates) (js.filter Outside.mutates) := by
  induction h with
  | nil => exact .nil
  | @cons ev es js js' run _ ih =>
    rw [List.filter_append]
    cases hev : Facility.mutates ev with
    | false =>
      rw [List.filter_cons_of_neg (by simp [hev]), Endpoint.runs_reading run hev]
      exact ih
    | true =>
      obtain ⟨q, a⟩ := ev
      cases q with
      | call token c =>
        have all : js.filter Outside.mutates = js := by
          rcases Call.runs_perform run with ⟨rfl, _⟩ | ⟨r, o, hr, _, rfl, _⟩
          · rfl
          · exact List.filter_cons_of_pos ((Call.request_mutates hr).trans hev)
        rw [List.filter_cons_of_pos hev, all]
        exact .cons run ih
      | _ => cases hev

theorem Call.runs_serves {a : Except ProviderError c.Answer}
    (run : (c.perform base token).Runs js a) :
    js = [] ∨ ∃ r o, Serves base c.duty ⟨.exchange r, o⟩ ∧ js = [⟨.exchange r, o⟩] ∧
      a = c.answer o := by
  rcases Call.runs_perform run with ⟨rfl, _⟩ | ⟨r, o, hr, _, rfl, rfl⟩
  · exact .inl rfl
  · exact .inr ⟨r, o, ⟨token, c, r, rfl, hr, rfl⟩, rfl, rfl⟩

theorem sent_of_made (made : Work.Made ms es) (carried : Program.Carried e.find es js) :
    ∃ sent, sent.Sublist ms ∧ Sent e.base sent js := by
  induction made generalizing js with
  | nil =>
    cases carried
    exact ⟨[], .refl _, .nil⟩
  | once t c a _ ih =>
    cases carried with
    | cons run rest =>
      obtain ⟨sent, sub, others⟩ := ih rest
      rcases Call.runs_serves run with rfl | ⟨r, o, serves, rfl, _⟩
      · exact ⟨sent, sub.cons _, others⟩
      · exact ⟨_, sub.cons_cons _, .once serves others⟩
  | again t t' same a _ ih =>
    cases carried with
    | cons run rest =>
      cases rest with
      | cons run' rest =>
        obtain ⟨sent, sub, others⟩ := ih rest
        -- A request that cannot be sent leaves no exchange, and then the other one stands alone.
        rcases Call.runs_serves run with rfl | ⟨r, o, serves, rfl, answered⟩
        · rcases Call.runs_serves run' with rfl | ⟨r', o', serves', rfl, _⟩
          · exact ⟨sent, sub.cons _, others⟩
          · exact ⟨_, sub.cons_cons _, .once serves' others⟩
        · rw [same] at serves
          rcases Call.runs_serves run' with rfl | ⟨r', o', serves', rfl, _⟩
          · exact ⟨_, sub.cons_cons _, .once serves others⟩
          · obtain ⟨reply, rfl, rejected⟩ := Call.answer_rejected answered.symm
            exact ⟨_, sub.cons_cons _, .again serves rejected serves' others⟩

end Provider

end Tenancy
