import Tenancy.Proofs.Provider.Mutations
import Tenancy.Proofs.Realm.Order
import Tenancy.Proofs.Realm.Orphan

/-!
# Nothing is changed twice

Establishing, revising and retiring a realm are runs of steps, and what each of them is to change is
known beforehand, each change being one of its kind. Over the network the requests for changes are
sent in this order, each of them once; one whose token was rejected is sent once more, and one that
was answered by anything else, or lost, is not.
-/

namespace Tenancy.Realm

open Provider Work Session

/-- What is done to the realm of a tenant. -/
inductive Task where
  | establish (tenant : Tenant)
  | revise (tenant : Tenant)
  | retire (name : String)

namespace Task

/-- What a task finds out when it succeeds. -/
def Result : Task → Type
  | .establish _ => Wire.Realm
  | .revise _ => Unit
  | .retire _ => Unit

/-- The work of a task. -/
def work (d : Design) : (k : Task) → Work k.Result
  | .establish t => d.establish t
  | .revise t => d.revise t
  | .retire name => Realm.retire name

/-- What a task is to change, in order. A realm is removed only after everything else. -/
def mutations (d : Design) : Task → List Duty
  | .establish t => (d.duties t).filter Duty.mutates ++ [.deleteRealm t.name]
  | .revise t => [.updateRealm t.name]
  | .retire name => [.deleteRealm name]

theorem mutations_nodup (d : Design) (k : Task) : (k.mutations d).Nodup := by
  cases k with
  | establish t => simp [mutations, Design.duties, Plan.duties, Duty.mutates, List.filter_cons]
  | revise t => simp [mutations]
  | retire name => simp [mutations]

end Task

variable {d : Design} {t : Tenant} {slot slot' : TokenSlot} {es : List Facility.Event}

theorem revise_orderly : Orderly (fun _ => True) (d.revise t) [.updateRealm t.name] := by
  have check : Orderly (fun _ => True) (Step.check t).work [] := .step trivial
  refine Orderly.bind check fun id => ?_
  exact Orderly.step (s := .call _ (.updateRealm (describe d.lifetimes id t))) trivial

/-- The step that looks for a realm. -/
abbrev seeks (name : String) : Step :=
  .call ("Failed to look up realm: " ++ name) (.findRealm name)

/-- The step that removes a realm. -/
abbrev drops (name : String) : Step :=
  .call ("Failed to delete realm: " ++ name) (.deleteRealm name)

/-- Retiring a realm is a lookup, and a removal if there is something to remove. -/
theorem retire_logged {name : String} {r : Except Fault Unit}
    (run : (retire name).Runs slot es r slot') :
    ∃ log, Logged (retire name) slot log r slot' ∧ es = Stage.trace log ∧
      Stage.duties log <+: [.findRealm name, .deleteRealm name] := by
  rcases Runs.of_bind run with ⟨f, looked, rfl⟩ | ⟨seen, es₁, es₂, slot₁, rfl, looked, rest⟩
  · exact ⟨[⟨seeks name, es, .error f⟩], .stop (.step (seeks name) looked), by simp [Stage.trace],
      ⟨_, rfl⟩⟩
  cases seen with
  | none =>
    obtain ⟨rfl, rfl, rfl⟩ := Runs.of_pure rest
    have sought : Logged (lookup name) slot [⟨seeks name, es₁, .ok none⟩] (.ok none) slot' :=
      .step (seeks name) looked
    refine ⟨[⟨seeks name, es₁, .ok none⟩] ++ [], .bind sought ?_, by simp [Stage.trace], ⟨_, rfl⟩⟩
    exact .pure _ ()
  | some found =>
    have removal : Orderly (fun _ => True) ((drops name).work >>= fun _ => Pure.pure ())
        [.deleteRealm name] := Orderly.bind (.step trivial) fun _ => .pure ()
    obtain ⟨log, logged, rfl, _, led, _⟩ := removal.log rest
    have sought : Logged (lookup name) slot [⟨seeks name, es₁, .ok (some found)⟩]
        (.ok (some found)) slot₁ := .step (seeks name) looked
    refine ⟨[⟨seeks name, es₁, .ok (some found)⟩] ++ log, .bind sought ?_, by simp [Stage.trace], ?_⟩
    · exact logged
    · exact (List.prefix_cons_inj _).mpr led

/-- What a task asks to be changed, over calls: each change once, or once more after its token was
rejected, in their order. -/
theorem task_made {k : Task} {r : Except Fault k.Result} (run : (k.work d).Runs slot es r slot') :
    ∃ ms, ms.Sublist (k.mutations d) ∧ Made ms (es.filter Facility.mutates) := by
  cases k with
  | establish t =>
    obtain ⟨log, rollback, slot₁, rfl, course, guarded⟩ := establish_course run
    obtain ⟨ms, sub, made⟩ := course.logged.made
    have within := sub.trans (course.led.sublist.filter Duty.mutates)
    rw [List.filter_append]
    rcases guarded.called with rfl | ⟨token, called⟩
    · rw [List.filter_nil, List.append_nil]
      exact ⟨ms, within.trans (List.sublist_append_left _ _), made⟩
    · exact ⟨ms ++ [.deleteRealm t.name], within.append (.refl _), made.append (called_made called)⟩
  | revise t =>
    obtain ⟨log, logged, rfl, _, led, _⟩ := revise_orderly.log run
    obtain ⟨ms, sub, made⟩ := logged.made
    exact ⟨ms, sub.trans (led.sublist.filter Duty.mutates), made⟩
  | retire name =>
    obtain ⟨log, logged, rfl, led⟩ := retire_logged run
    obtain ⟨ms, sub, made⟩ := logged.made
    exact ⟨ms, sub.trans (led.sublist.filter Duty.mutates), made⟩

/-- A task asks for each of its changes once, in their order and no two alike, or once more after the
token of the first call was rejected. Over the network each call is one request or none, and a second
request for a change is sent only after a reply by which the token of the first was rejected. -/
theorem changes_sent_once (e : Endpoint) (d : Design) (k : Task) {slot slot' : TokenSlot}
    {js : List Outside.Event} {r : Except Fault k.Result}
    (run : ((k.work d).through e).Runs slot js r slot') :
    (k.mutations d).Nodup ∧
      ∃ es ms sent, (k.work d).Runs slot es r slot' ∧ Program.Carried e.find es js ∧
        ms.Sublist (k.mutations d) ∧ Made ms (es.filter Facility.mutates) ∧
        sent.Sublist ms ∧ Sent e.base sent (js.filter Outside.mutates) := by
  obtain ⟨es, work, carried⟩ := runs_through run
  obtain ⟨ms, within, made⟩ := task_made work
  obtain ⟨sent, sub, exchanged⟩ := sent_of_made made (carried_mutations carried)
  exact ⟨k.mutations_nodup d, es, ms, sent, work, carried, within, made, sub, exchanged⟩

/-- The request that brings the realm of a tenant up to date. -/
def revision (token : Token) : Http.Request :=
  ((Http.Request.bare .put { kc.base with path := .segments ["admin", "realms", "acme"] }).withHeader
    "authorization" ("Bearer " ++ token)).withBody "application/json"
    (Wire.Realm.codec.encode (describe usual.lifetimes .nil acme)).compact

/-- A revision whose token is rejected. -/
def revisionRejected : Outside.Event :=
  ⟨.exchange (revision "t"), .ok ⟨.unauthorized, [], .ok []⟩⟩

/-- The revision with a new token. -/
def revisionAccepted : Outside.Event := ⟨.exchange (revision "u"), .ok ⟨.noContent, [], .ok []⟩⟩

/-- The token is renewed between the two, as a POST that is no change. -/
def revisedEvents : List Outside.Event :=
  [revisionRejected,
   ⟨.readSecret "keycloak-admin-client-secret", .ok none⟩,
   ⟨.readSecret "keycloak-admin-password", .ok none⟩,
   ⟨.exchange (kc.login.request none none),
    .ok ⟨.ok, [], .ok "\x7b\"access_token\":\"u\"\x7d".toUTF8.data.toList⟩⟩,
   revisionAccepted]

theorem revised_runs :
    (((Task.revise acme).work usual).through kc).Runs ⟨some "t"⟩ revisedEvents (.ok ())
      ⟨some "u"⟩ :=
  .ask (.ask (.ask (.ask (.ask (.done _)))))

theorem revision_sent_again :
    Sent kc.base [.updateRealm "acme"] [revisionRejected, revisionAccepted] := by
  obtain ⟨_, es, ms, sent, _, _, within, _, sub, exchanged⟩ :=
    changes_sent_once kc usual (.revise acme) revised_runs
  cases (sub.trans within : sent.Sublist [.updateRealm "acme"]) with
  | cons _ less => cases less; cases exchanged
  | cons_cons _ less => cases less; exact exchanged

end Tenancy.Realm
