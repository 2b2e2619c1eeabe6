import Tenancy.Proofs.Work.Calls

/-!
# The order of calls

A step makes its calls in the order of its duties, as far as it gets, and begins again, with a new
token and for the last time, only if its token was rejected. Without the attempts that were made
again, the calls of a log follow the duties of its steps as far as the work got.
-/

namespace Tenancy

open Facility Session Provider

/-- What the steps of a log are there to call, in order. -/
def Stage.duties (log : List Stage) : List Duty := log.flatMap fun s => s.step.duties

theorem Stage.duties_append (log log' : List Stage) :
    Stage.duties (log ++ log') = Stage.duties log ++ Stage.duties log' :=
  List.flatMap_append

namespace Work

variable {α β : Type} {F : Call → Prop} {t t' : Token} {ds ds' : List Duty}
  {es es' : List Facility.Event} {slot slot' : TokenSlot}

/-! ## Without the attempts that were made again -/

/-- The events are calls with the token, one after the other. -/
def Asked (t : Token) (es : List Facility.Event) (cs : List Call) : Prop :=
  es.map (·.query) = cs.map (Facility.Query.call t)

theorem Went.asked {r : Except Setback α} (h : Went F t ds es r) :
    ∃ cs, Asked t es cs ∧ cs.map Call.duty <+: ds ∧ ∀ v, r = .ok v → cs.map Call.duty = ds := by
  induction h with
  | done v => exact ⟨[], rfl, List.prefix_rfl, fun _ _ => rfl⟩
  | refused ds f => exact ⟨[], rfl, List.nil_prefix, nofun⟩
  | failed c _ e ds => exact ⟨[c], rfl, ⟨ds, rfl⟩, nofun⟩
  | next c _ v _ ih =>
    obtain ⟨cs, asked, led, whole⟩ := ih
    refine ⟨c :: cs, congrArg (Facility.Query.call t c :: ·) asked, ?_, fun v hv => ?_⟩
    · exact List.prefix_cons_inj _ |>.mpr led
    · rw [List.map_cons, whole v hv]

/-- An attempt whose token was rejected ends with the call that found it so. -/
theorem Went.rejected (h : Went (α := α) F t ds es (.error (.raw .unauthorized))) :
    ∃ es' cs c, es = es' ++ [⟨.call t c, .error .unauthorized⟩] ∧ Asked t es' cs ∧
      cs.map Call.duty ++ [c.duty] <+: ds := by
  generalize hr : Except.error (Setback.raw .unauthorized) = r at h
  induction h with
  | done => cases hr
  | refused => cases hr
  | failed c _ e ds =>
    cases hr
    exact ⟨[], [], c, rfl, rfl, ds, rfl⟩
  | next c _ v _ ih =>
    obtain ⟨es', cs, c', rfl, asked, begun⟩ := ih hr
    refine ⟨⟨.call t c, .ok v⟩ :: es', c :: cs, c', rfl, ?_, ?_⟩
    · exact congrArg (Facility.Query.call t c :: ·) asked
    · exact (List.prefix_cons_inj _).mpr begun

/-- The calls of a step with the given duties, without those of an attempt that ended with the
rejection of its token and was made again with a new one. -/
inductive Trimmed (ds : List Duty) : List Facility.Event → List Call → Prop
  /-- No token was renewed after a call, so there is nothing to leave out. -/
  | once {t : Token} {before attempt after : List Facility.Event} {cs : List Call}
      (waits : ∀ e ∈ before, Waits e) (made : Asked t attempt cs)
      (unissued : ∀ e ∈ after, ∃ f, e = ⟨.issueToken, .error f⟩) :
      Trimmed ds (before ++ (attempt ++ after)) cs
  /-- The calls up to the one whose token was rejected are left out; they began the same duties. -/
  | again {t t' : Token} {c : Call} {before rejected attempt : List Facility.Event}
      {gone cs : List Call} (waits : ∀ e ∈ before, Waits e) (first : Asked t rejected gone)
      (begun : gone.map Call.duty ++ [c.duty] <+: ds) (made : Asked t' attempt cs) :
      Trimmed ds (before ++ (rejected ++ ⟨.call t c, .error .unauthorized⟩ ::
        ⟨.issueToken, .ok t'⟩ :: attempt)) cs

theorem Trimmed.quiet (waits : ∀ e ∈ es, Waits e) : Trimmed ds es [] := by
  -- Where no call is made, it does not matter with which token.
  have none : Asked "" [] [] := rfl
  have whole : Trimmed ds (es ++ ([] ++ [])) [] := .once waits none fun e he => by cases he
  rwa [List.append_nil, List.append_nil] at whole

theorem step_trimmed {s : Step} {r : Except Fault s.Result} (run : s.work.Runs slot es r slot') :
    ∃ cs, Trimmed s.duties es cs ∧ cs.map Call.duty <+: s.duties ∧
      ∀ v, r = .ok v → cs.map Call.duty = s.duties := by
  cases step_acts run with
  | aside idle waits => exact ⟨[], .quiet waits, List.nil_prefix, fun _ _ => idle.symm⟩
  | access accessed goes decided =>
    cases accessed with
    | tokenless issued =>
      refine ⟨[], .quiet (issue_waits issued), List.nil_prefix, fun v hv => ?_⟩
      obtain ⟨u, hu⟩ := decided v hv
      cases hu
    | @once _ es₁ es₂ _ _ token tried _ =>
      obtain ⟨cs, asked, led, whole⟩ := (goes _ _ _ tried).asked
      refine ⟨cs, ?_, led, fun v hv => ?_⟩
      · rw [← List.append_nil es₂]
        exact .once (obtained_waits token) asked fun e he => by cases he
      · obtain ⟨u, hu⟩ := decided v hv
        exact whole u (mapError_ok hu)
    | unrenewed token tried renewed =>
      obtain ⟨cs, asked, led, _⟩ := (goes _ _ _ tried).asked
      refine ⟨cs, .once (obtained_waits token) asked fun e he => ?_, led, fun v hv => ?_⟩
      · rw [issue_runs renewed] at he
        exact ⟨_, List.mem_singleton.mp he⟩
      · obtain ⟨u, hu⟩ := decided v hv
        cases hu
    | twice token tried renewed retried =>
      obtain ⟨es', gone, c, rfl, first, begun⟩ := (goes _ _ _ tried).rejected
      obtain ⟨cs, asked, led, whole⟩ := (goes _ _ _ retried).asked
      refine ⟨cs, ?_, led, fun v hv => ?_⟩
      · rw [issue_runs renewed, List.append_assoc]
        exact .again (obtained_waits token) first begun asked
      · obtain ⟨u, hu⟩ := decided v hv
        exact whole u (mapError_ok hu)

/-- The calls of the steps of a log, each trimmed. -/
inductive Settled : List Stage → List Call → Prop
  | nil : Settled [] []
  | cons {s : Stage} {log : List Stage} {cs cs' : List Call}
      (trimmed : Trimmed s.step.duties s.events cs) (rest : Settled log cs') :
      Settled (s :: log) (cs ++ cs')

theorem Settled.append {log log' : List Stage} {cs cs' : List Call} (h : Settled log cs)
    (h' : Settled log' cs') : Settled (log ++ log') (cs ++ cs') := by
  induction h with
  | nil => exact h'
  | cons trimmed _ ih => rw [List.append_assoc]; exact .cons trimmed ih

theorem Settled.alone {s : Stage} {cs : List Call} (h : Trimmed s.step.duties s.events cs) :
    Settled [s] cs :=
  List.append_nil cs ▸ .cons h .nil

/-- The calls of a log, settled, follow the duties of its steps: all of them if the work succeeded,
and else as far as it got. -/
theorem Logged.settled {x : Work α} {log : List Stage} {r : Except Fault α}
    (h : Logged x slot log r slot') :
    ∃ cs, Settled log cs ∧ cs.map Call.duty <+: Stage.duties log ∧
      ∀ v, r = .ok v → cs.map Call.duty = Stage.duties log := by
  induction h with
  | @step slot slot' es s r run =>
    obtain ⟨cs, trimmed, led, whole⟩ := step_trimmed run
    have alone : Stage.duties [⟨s, es, r⟩] = s.duties := List.append_nil s.duties
    rw [alone]
    exact ⟨cs, .alone trimmed, led, whole⟩
  | refuse slot f =>
    exact ⟨[], .alone (.quiet fun e he => by cases he), List.prefix_rfl, fun v hv => by cases hv⟩
  | pure slot v => exact ⟨[], .nil, List.prefix_rfl, fun _ _ => rfl⟩
  | bind _ _ ih ih' =>
    obtain ⟨cs, settled, _, whole⟩ := ih
    obtain ⟨cs', settled', led, whole'⟩ := ih'
    refine ⟨cs ++ cs', settled.append settled', ?_, fun v hv => ?_⟩
    · rw [List.map_append, whole _ rfl, Stage.duties_append]
      exact (List.prefix_append_right_inj _).mpr led
    · rw [List.map_append, whole _ rfl, whole' v hv, Stage.duties_append]
  | stop _ ih =>
    obtain ⟨cs, settled, led, _⟩ := ih
    exact ⟨cs, settled, led, fun v hv => by cases hv⟩

/-! ## Work with duties -/

/-- Every run of the work has a log of steps of the given kind, whose duties are the given ones: all
of them if the work succeeds, and else as far as it gets. -/
structure Orderly (P : Step → Prop) (x : Work α) (ds : List Duty) : Prop where
  log : ∀ {slot es r slot'}, x.Runs slot es r slot' →
    ∃ log, Logged x slot log r slot' ∧ es = Stage.trace log ∧ (∀ s ∈ log, P s.step) ∧
      Stage.duties log <+: ds ∧ ∀ v, r = .ok v → Stage.duties log = ds

variable {P : Step → Prop} {x : Work α} {f : α → Work β}

theorem Orderly.loggable (h : Orderly P x ds) : Loggable P x where
  log run := by
    obtain ⟨log, logged, rfl, hP, _⟩ := h.log run
    exact ⟨log, logged, rfl, hP⟩

theorem Orderly.mono {Q : Step → Prop} (h : Orderly P x ds) (implies : ∀ s, P s → Q s) :
    Orderly Q x ds where
  log run := by
    obtain ⟨log, logged, rfl, hP, led, whole⟩ := h.log run
    exact ⟨log, logged, rfl, fun s hs => implies s.step (hP s hs), led, whole⟩

theorem Orderly.step {s : Step} (h : P s) : Orderly P s.work s.duties where
  log {_ es r _} run := by
    have alone : Stage.duties [⟨s, es, r⟩] = s.duties := List.append_nil s.duties
    exact ⟨[⟨s, es, r⟩], .step s run, by simp [Stage.trace], by simpa using h,
      alone ▸ List.prefix_rfl, fun _ _ => alone⟩

theorem Orderly.refuse {e : Fault} (h : P (.refuse e)) : Orderly P (throw e : Work α) ds := by
  refine ⟨fun {slot es r slot'} run => ?_⟩
  obtain ⟨rfl, rfl, rfl⟩ := run.of_throw
  exact ⟨_, .refuse slot' e, by simp [Stage.trace], by simpa using h, List.nil_prefix, nofun⟩

theorem Orderly.pure (v : α) : Orderly P (Pure.pure v : Work α) [] := by
  refine ⟨fun {slot es r slot'} run => ?_⟩
  obtain ⟨rfl, rfl, rfl⟩ := run.of_pure
  exact ⟨[], .pure slot' v, rfl, by simp, List.prefix_rfl, fun _ _ => rfl⟩

theorem Orderly.bind (hx : Orderly P x ds) (hf : ∀ v, Orderly P (f v) ds') :
    Orderly P (x >>= f) (ds ++ ds') := by
  refine ⟨fun {slot es r slot'} run => ?_⟩
  rcases run.of_bind with ⟨e, first, rfl⟩ | ⟨v, es₁, es₂, slot₁, rfl, first, second⟩
  · obtain ⟨log, logged, rfl, hP, led, _⟩ := hx.log first
    exact ⟨log, .stop logged, rfl, hP, led.trans (List.prefix_append _ _), nofun⟩
  · obtain ⟨log, logged, rfl, hP, _, whole⟩ := hx.log first
    obtain ⟨log', logged', rfl, hP', led', whole'⟩ := (hf v).log second
    have parts : Stage.duties (log ++ log') = ds ++ Stage.duties log' := by
      rw [Stage.duties_append, whole v rfl]
    refine ⟨log ++ log', .bind logged logged', (Stage.trace_append log log').symm,
      fun s hs => (List.mem_append.mp hs).elim (hP s) (hP' s), ?_, fun u hu => ?_⟩
    · rw [parts]
      exact (List.prefix_append_right_inj _).mpr led'
    · rw [parts, whole' u hu]

end Work

end Tenancy
