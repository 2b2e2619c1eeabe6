import Tenancy.Proofs.Work.Order

/-!
# Calls that change something

A step that makes several calls looks things up first and changes something last, if at all. So an
attempt that is made again has changed nothing, or its last call was the change, and it was refused
for its token. Every change is therefore asked for at most twice, and the second time only after such
a refusal.
-/

namespace Tenancy

namespace Provider

/-- Whether a duty is to change something. -/
def Duty.mutates : Duty → Bool
  | .findRealm _ | .findRole _ _ | .findClients _ _ | .serviceAccount _ | .findPermission _
  | .findPolicies _ | .serverInfo => false
  | .createRealm _ | .updateRealm _ | .deleteRealm _ | .createRole _ _ _ | .createClient _ _ _
  | .addRoles _ | .enablePermissions _ | .createPolicy _ | .updatePermission _ => true

/-- No duty but the last one is to change something. -/
def Duty.changeLast : List Duty → Prop
  | [] => True
  | d :: ds => (d.mutates = true → ds = []) ∧ changeLast ds

end Provider

/-- Whether an event is a call that is to change something. -/
def Facility.mutates (e : Facility.Event) : Bool :=
  match e.query with
  | .call _ c => c.duty.mutates
  | _ => false

open Facility Session Provider

theorem Step.changes_last (s : Step) : Duty.changeLast s.duties := by
  cases s with
  | grantRole => exact ⟨nofun, nofun, fun _ => rfl, trivial⟩
  | bindPolicy => exact ⟨nofun, nofun, fun _ => rfl, trivial⟩
  | _ => first | trivial | exact ⟨fun _ => rfl, trivial⟩

namespace Work

variable {α : Type} {F : Call → Prop} {t t' : Token} {ds ms ms' : List Duty}
  {es es' : List Facility.Event} {slot slot' : TokenSlot}

/-- Each of the duties was asked for once, or once more after its token was rejected. -/
inductive Made : List Duty → List Facility.Event → Prop
  | nil : Made [] []
  | once {ms : List Duty} {es : List Facility.Event} (t : Token) (c : Call)
      (a : Except ProviderError c.Answer) (rest : Made ms es) :
      Made (c.duty :: ms) (⟨.call t c, a⟩ :: es)
  | again {ms : List Duty} {es : List Facility.Event} (t t' : Token) {c c' : Call}
      (same : c.duty = c'.duty) (a : Except ProviderError c'.Answer) (rest : Made ms es) :
      Made (c'.duty :: ms) (⟨.call t c, .error .unauthorized⟩ :: ⟨.call t' c', a⟩ :: es)

theorem Made.append (h : Made ms es) (h' : Made ms' es') : Made (ms ++ ms') (es ++ es') := by
  induction h with
  | nil => exact h'
  | once t c a _ ih => exact .once t c a ih
  | again t t' same a _ ih => exact .again t t' same a ih

theorem waits_mutates (waits : ∀ e ∈ es, Waits e) : es.filter mutates = [] := by
  refine List.filter_eq_nil_iff.mpr fun e he => ?_
  obtain ⟨q, a⟩ := e
  cases q with
  | call t c => exact (waits _ he t c rfl).elim
  | _ => exact Bool.false_ne_true

/-- What an attempt has changed: nothing, or its last duty, and if its token was rejected, then by
the very call that was to make the change. -/
inductive Changed {α : Type} (t : Token) (ds : List Duty) (r : Except Setback α) :
    List Facility.Event → Prop
  | none : Changed t ds r []
  | call (c : Call) (a : Except ProviderError c.Answer) (duty : ds.filter Duty.mutates = [c.duty])
      (refused : r = .error (.raw .unauthorized) → a = .error .unauthorized) :
      Changed t ds r [⟨.call t c, a⟩]

theorem Went.nothing {r : Except Setback α} (h : Went F t [] es r) :
    es = [] ∧ r ≠ .error (.raw .unauthorized) := by
  cases h with
  | done v => exact ⟨rfl, fun h => by cases h⟩
  | refused _ f => exact ⟨rfl, fun h => by cases h⟩

theorem Went.changed {r : Except Setback α} (h : Went F t ds es r) (last : Duty.changeLast ds) :
    Changed t ds r (es.filter mutates) := by
  induction h with
  | done v => exact .none
  | refused ds f => exact .none
  | failed c _ e ds =>
    cases hc : c.duty.mutates with
    | false =>
      rw [List.filter_cons_of_neg (by simp [mutates, hc])]
      exact .none
    | true =>
      obtain rfl := last.1 hc
      rw [List.filter_cons_of_pos (by simp [mutates, hc])]
      -- The attempt fails with the answer to its change, so its token was rejected by that one.
      exact .call c _ (by simp [hc]) fun h => by cases h; rfl
  | next c _ v rest ih =>
    cases hc : c.duty.mutates with
    | false =>
      rw [List.filter_cons_of_neg (by simp [mutates, hc])]
      have later := ih last.2
      generalize List.filter mutates _ = changes at later ⊢
      cases later with
      | none => exact .none
      | call c' a duty refused => exact .call c' a (by simpa [hc] using duty) refused
    | true =>
      -- The change has been made, and as it was the last duty, no call is left to be rejected.
      obtain rfl := last.1 hc
      obtain ⟨rfl, heard⟩ := rest.nothing
      rw [List.filter_cons_of_pos (by simp [mutates, hc])]
      exact .call c _ (by simp [hc]) fun h => (heard h).elim

theorem Changed.made {r : Except Setback α} (h : Changed t ds r es) :
    ∃ ms, ms.Sublist (ds.filter Duty.mutates) ∧ Made ms es := by
  cases h with
  | none => exact ⟨[], List.nil_sublist _, .nil⟩
  | call c a duty refused => exact ⟨[c.duty], duty ▸ .refl _, .once t c a .nil⟩

theorem Changed.again {r : Except Setback α}
    (h : Changed (α := α) t ds (.error (.raw .unauthorized)) es) (h' : Changed t' ds r es') :
    ∃ ms, ms.Sublist (ds.filter Duty.mutates) ∧ Made ms (es ++ es') := by
  cases h with
  | none => exact h'.made
  | call c a duty refused =>
    cases h' with
    | none => exact ⟨[c.duty], duty ▸ .refl _, .once t c a .nil⟩
    | call c' a' duty' _ =>
      obtain rfl := refused rfl
      have same : c.duty = c'.duty := List.singleton_inj.mp (duty.symm.trans duty')
      exact ⟨[c'.duty], duty' ▸ .refl _, .again t t' same a' .nil⟩

/-- A step asks for its change once, or once more after its token was rejected, if it comes to it. -/
theorem step_made {s : Step} {r : Except Fault s.Result} (run : s.work.Runs slot es r slot') :
    ∃ ms, ms.Sublist (s.duties.filter Duty.mutates) ∧ Made ms (es.filter mutates) := by
  have quiet {es : List Facility.Event} (waits : ∀ e ∈ es, Waits e) :
      ∃ ms, ms.Sublist (s.duties.filter Duty.mutates) ∧ Made ms (es.filter mutates) :=
    ⟨[], List.nil_sublist _, waits_mutates waits ▸ .nil⟩
  cases step_acts run with
  | aside _ waits => exact quiet waits
  | access accessed goes _ =>
    cases accessed with
    | tokenless issued => exact quiet (issue_waits issued)
    | once token tried _ =>
      rw [List.filter_append, waits_mutates (obtained_waits token), List.nil_append]
      exact ((goes _ _ _ tried).changed s.changes_last).made
    | unrenewed token tried renewed =>
      rw [List.filter_append, List.filter_append, waits_mutates (obtained_waits token),
        waits_mutates (issue_waits renewed), List.nil_append, List.append_nil]
      exact ((goes _ _ _ tried).changed s.changes_last).made
    | twice token tried renewed retried =>
      rw [List.filter_append, List.filter_append, List.filter_append,
        waits_mutates (obtained_waits token), waits_mutates (issue_waits renewed), List.nil_append,
        List.nil_append]
      exact ((goes _ _ _ tried).changed s.changes_last).again
        ((goes _ _ _ retried).changed s.changes_last)

/-- The changes of a log are asked for in the order of its steps, each of them once, or once more
after its token was rejected. -/
theorem Logged.made {x : Work α} {log : List Stage} {r : Except Fault α}
    (h : Logged x slot log r slot') :
    ∃ ms, ms.Sublist ((Stage.duties log).filter Duty.mutates) ∧
      Made ms ((Stage.trace log).filter mutates) := by
  induction h with
  | @step slot slot' es s r run =>
    have duties : Stage.duties [⟨s, es, r⟩] = s.duties := List.append_nil s.duties
    have trace : Stage.trace [⟨s, es, r⟩] = es := List.append_nil es
    rw [duties, trace]
    exact step_made run
  | refuse slot f => exact ⟨[], .refl _, .nil⟩
  | pure slot v => exact ⟨[], .refl _, .nil⟩
  | bind _ _ ih ih' =>
    obtain ⟨ms, sub, made⟩ := ih
    obtain ⟨ms', sub', made'⟩ := ih'
    rw [Stage.duties_append, Stage.trace_append, List.filter_append, List.filter_append]
    exact ⟨ms ++ ms', sub.append sub', made.append made'⟩
  | stop _ ih => exact ih

theorem called_made {name : String} (h : Called (.deleteRealm name) t es) :
    Made [.deleteRealm name] (es.filter mutates) := by
  cases h with
  | once a _ => exact .once t (.deleteRealm name) a .nil
  | unrenewed e => exact .once t (.deleteRealm name) _ .nil
  | twice t' a =>
    have same : (Call.deleteRealm name).duty = (Call.deleteRealm name).duty := rfl
    exact .again t t' same a .nil

end Work

end Tenancy
