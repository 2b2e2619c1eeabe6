import Tenancy.Proofs.Session.Access
import Tenancy.Realm.Lifecycle

/-!
# The steps of provisioning

Provisioning is a sequence of steps: one access to the provider, one look into the secret store, or
a verdict on what was found so far. A log of a run lists the steps that it went through, each with
its events and its result. A log follows the work as it is put together, so it names the very steps
that the work is made of; and since work stops at the first step that fails, at most the last stage
of a log is a failure, and then it is the failure of the work as a whole.
-/

namespace Tenancy

open Realm (Plan)

/-- Something to be created, with where it goes. -/
inductive Creation where
  | realm (realm : Wire.Realm)
  | role (realm : String) (role : Wire.Role)
  | client (realm : String) (client : Wire.Client)
  | policy (realm server : String) (policy : Wire.Policy)

namespace Creation

/-- The call that creates it. -/
def call : Creation → Provider.Call
  | .realm r => .createRealm r
  | .role name r => .createRole name r
  | .client name c => .createClient name c
  | .policy name server p => .createPolicy name server p

/-- The work of creating it. -/
def work : Creation → Work String
  | .realm r => Work.create r (Facility.call (.createRealm r))
  | .role name r => Work.create r (Facility.call (.createRole name r))
  | .client name c => Work.create c (Facility.call (.createClient name c))
  | .policy name server p => Work.create p (Facility.call (.createPolicy name server p))

end Creation

/-- A step of provisioning. -/
inductive Step where
  | check (tenant : Tenant)
  | call (context : String) (call : Provider.Call)
  | create (creation : Creation)
  | grantRole (realm client clientId role : String)
  | bindPolicy (realm server permission policy : String)
  | readSecret (key : String)
  | writeSecret (key value : String)
  | entropy
  | now
  | refuse (fault : Fault)

namespace Step

/-- What the step finds out when it succeeds. -/
def Result : Step → Type
  | .check _ => Uuid
  | .call _ c => c.Answer
  | .create _ => String
  | .grantRole _ _ _ _ => Unit
  | .bindPolicy _ _ _ _ => Unit
  | .readSecret _ => Option String
  | .writeSecret _ _ => Unit
  | .entropy => Nat
  | .now => Nat
  | .refuse _ => Empty

/-- The work of the step. -/
def work : (s : Step) → Work s.Result
  | .check t => Session.lift (pure (Realm.eligible t))
  | .call context c => Work.call context c
  | .create c => c.work
  | .grantRole realm client clientId role => Plan.grantRole realm client clientId role
  | .bindPolicy realm server permission policy => Plan.bindPolicy realm server permission policy
  | .readSecret key => Session.lift (Facility.ask (.readSecret key))
  | .writeSecret key value => Session.lift (Facility.ask (.writeSecret key value))
  | .entropy => Work.ask .entropy
  | .now => Work.ask .now
  | .refuse f => throw f

end Step

/-- A step as it went. -/
structure Stage where
  step : Step
  events : List Facility.Event
  result : Except Fault step.Result

namespace Stage

/-- The failure of the step, if it failed. -/
def failure (s : Stage) : Option Fault :=
  match s.result with
  | .ok _ => none
  | .error f => some f

/-- All that was asked and answered along a log. -/
def trace (log : List Stage) : List Facility.Event := log.flatMap Stage.events

/-- The failure of the first step that failed, if one did. -/
def firstFailure (log : List Stage) : Option Fault := log.findSome? Stage.failure

theorem trace_append (log log' : List Stage) : trace (log ++ log') = trace log ++ trace log' :=
  List.flatMap_append

end Stage

namespace Work

/-- The work was run step by step as the log says. -/
inductive Logged : {α : Type} → Work α → TokenSlot → List Stage → Except Fault α → TokenSlot → Prop
  | step {slot slot' : TokenSlot} {es : List Facility.Event} (s : Step)
      {r : Except Fault s.Result} (run : s.work.Runs slot es r slot') :
      Logged s.work slot [⟨s, es, r⟩] r slot'
  | refuse {α : Type} (slot : TokenSlot) (f : Fault) :
      Logged (throw f : Work α) slot [⟨.refuse f, [], .error f⟩] (.error f) slot
  | pure {α : Type} (slot : TokenSlot) (v : α) : Logged (pure v : Work α) slot [] (.ok v) slot
  | bind {α β : Type} {x : Work α} {f : α → Work β} {slot slot₁ slot' : TokenSlot}
      {log log' : List Stage} {v : α} {r : Except Fault β} (first : Logged x slot log (.ok v) slot₁)
      (second : Logged (f v) slot₁ log' r slot') : Logged (x >>= f) slot (log ++ log') r slot'
  | stop {α β : Type} {x : Work α} {f : α → Work β} {slot slot' : TokenSlot} {log : List Stage}
      {e : Fault} (first : Logged x slot log (.error e) slot') :
      Logged (x >>= f) slot log (.error e) slot'

variable {α β : Type} {x : Work α} {f : α → Work β} {slot slot' : TokenSlot} {log : List Stage}

/-- Every stage of a log is a run of its step. -/
theorem Logged.runs {r : Except Fault α} (h : Logged x slot log r slot') {s : Stage}
    (hs : s ∈ log) : ∃ slot₁ slot₂, s.step.work.Runs slot₁ s.events s.result slot₂ := by
  induction h with
  | step s' run =>
    obtain rfl := List.mem_singleton.mp hs
    exact ⟨_, _, run⟩
  | refuse slot f =>
    obtain rfl := List.mem_singleton.mp hs
    exact ⟨slot, slot, .done _⟩
  | pure slot v => cases hs
  | bind _ _ ih ih' =>
    rcases List.mem_append.mp hs with hs | hs
    · exact ih hs
    · exact ih' hs
  | stop _ ih => exact ih hs

/-- Work that succeeded has a log without failures; work that failed stopped at the one stage whose
failure it reports. -/
inductive Ends {α : Type} : List Stage → Except Fault α → Prop
  | ok {log : List Stage} (v : α) (fine : ∀ s ∈ log, s.failure = none) : Ends log (.ok v)
  | error {done : List Stage} {last : Stage} {f : Fault} (fine : ∀ s ∈ done, s.failure = none)
      (failed : last.failure = some f) : Ends (done ++ [last]) (.error f)

theorem Ends.alone {s : Stage} {e : Fault} (failed : s.failure = some e) :
    Ends (α := α) [s] (.error e) :=
  List.nil_append [s] ▸ .error (by simp) failed

theorem Logged.ends {r : Except Fault α} (h : Logged x slot log r slot') : Ends log r := by
  induction h with
  | @step slot slot' es s r run =>
    cases r with
    | ok v => exact .ok v (by simp [Stage.failure])
    | error e => exact .alone rfl
  | refuse slot f => exact .alone rfl
  | pure slot v => exact .ok v (by simp)
  | bind first second ih ih' =>
    cases ih with
    | ok v fine =>
      cases ih' with
      | ok u fine' =>
        refine .ok u fun s hs => ?_
        rcases List.mem_append.mp hs with hs | hs
        · exact fine s hs
        · exact fine' s hs
      | @error done last e fine' failed =>
        rw [← List.append_assoc]
        refine .error (fun s hs => ?_) failed
        rcases List.mem_append.mp hs with hs | hs
        · exact fine s hs
        · exact fine' s hs
  | stop first ih =>
    cases ih with
    | error fine failed => exact .error fine failed

theorem Ends.fine {v : α} (h : Ends log (.ok v)) : ∀ s ∈ log, s.failure = none := by
  cases h with
  | ok _ fine => exact fine

theorem Ends.failed {e : Fault} (h : Ends (α := α) log (.error e)) :
    ∃ s ∈ log, s.failure = some e := by
  cases h with
  | error _ failed => exact ⟨_, List.mem_append_right _ List.mem_cons_self, failed⟩

theorem Ends.firstFailure_ok {v : α} (h : Ends log (.ok v)) : Stage.firstFailure log = none :=
  List.findSome?_eq_none_iff.mpr h.fine

theorem Ends.firstFailure_error {e : Fault} (h : Ends (α := α) log (.error e)) :
    Stage.firstFailure log = some e := by
  cases h with
  | error fine failed =>
    unfold Stage.firstFailure
    rw [List.findSome?_append, List.findSome?_eq_none_iff.mpr fine]
    simp [failed]

/-- The failure of the work is that of the first step that failed. -/
theorem Ends.failure_iff {r : Except Fault α} (h : Ends log r) (e : Fault) :
    r = .error e ↔ Stage.firstFailure log = some e := by
  cases r with
  | ok v => simp [h.firstFailure_ok]
  | error e' => simp [h.firstFailure_error]

/-- Nothing follows a stage that failed. -/
theorem Ends.last {before after : List Stage} {s : Stage} {r : Except Fault α}
    (h : Ends log r) (place : log = before ++ s :: after) (failed : s.failure.isSome) :
    after = [] := by
  have unfailed (fine : s.failure = none) : False := by
    rw [fine] at failed
    cases failed
  cases h with
  | ok v fine => exact (unfailed (fine s (by simp [place]))).elim
  | @error done last f fine _ =>
    rcases List.eq_nil_or_concat after with rfl | ⟨init, x, rfl⟩
    · rfl
    · have parts : done ++ [last] = (before ++ s :: init) ++ [x] := by simp [place]
      obtain ⟨rfl, _⟩ := List.append_inj' parts rfl
      exact (unfailed (fine s (by simp))).elim

/-! ## Work that has logs -/

/-- Every run of the work has a log of steps of the given kind. -/
structure Loggable (P : Step → Prop) (x : Work α) : Prop where
  log : ∀ {slot es r slot'}, x.Runs slot es r slot' →
    ∃ log, Logged x slot log r slot' ∧ es = Stage.trace log ∧ ∀ s ∈ log, P s.step

/-- A relation between the slots and events of a run that every step keeps is kept by a log. -/
theorem Logged.induct {R : TokenSlot → List Facility.Event → TokenSlot → Prop}
    (none : ∀ slot, R slot [] slot)
    (append : ∀ {slot es slot₁ es' slot'}, R slot es slot₁ → R slot₁ es' slot' →
      R slot (es ++ es') slot')
    (step : ∀ (s : Step) {slot es r slot'}, s.work.Runs slot es r slot' → R slot es slot')
    {r : Except Fault α} (h : Logged x slot log r slot') : R slot (Stage.trace log) slot' := by
  induction h with
  | step s run => simpa [Stage.trace] using step s run
  | refuse slot f => exact none slot
  | pure slot v => exact none slot
  | bind _ _ ih ih' => rw [Stage.trace_append]; exact append ih ih'
  | stop _ ih => exact ih

end Work

end Tenancy
