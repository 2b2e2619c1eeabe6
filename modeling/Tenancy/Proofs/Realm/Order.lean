import Tenancy.Proofs.Realm.Rollback

/-!
# The order of establishing a realm

A realm is established by calls in one order, whatever the provider answers and however often its
tokens expire: once the attempts that were made again are left out, a run has made some first part
of the sequence, and after the first step that fails nothing follows but the removal. A run that
succeeds has found the realm and done nothing else, or has been through the whole sequence.
-/

namespace Tenancy.Realm

open Provider Work Session

variable {d : Design} {t : Tenant} {log : List Stage} {rollback : List Facility.Event}

theorem Guarded.called (h : Guarded d t log rollback) :
    rollback = [] ∨ ∃ token, Called (.deleteRealm t.name) token rollback := by
  cases h with
  | spared => exact .inl rfl
  | removed _ _ _ called => exact .inr ⟨_, called⟩

theorem Guarded.spared_of_fine (h : Guarded d t log rollback) (fine : ∀ s ∈ log, s.failure = none) :
    rollback = [] := by
  cases h with
  | spared => rfl
  | removed shape _ failed _ =>
    obtain ⟨s, hs, failed⟩ := failed
    rw [fine s (shape ▸ List.mem_append_right _ hs)] at failed
    cases failed

/-- Without the attempts that were made again, the calls of a run are a first part of those by which
a realm is established, in their order, and attempts at the removal may follow. Nothing else follows
the first step that fails. A run succeeds only if the realm was found and nothing else was called,
or if the whole sequence was gone through without a failure. -/
theorem establish_in_order (d : Design) (t : Tenant) {slot slot' : TokenSlot}
    {es : List Facility.Event} {r : Except Fault Wire.Realm}
    (run : (d.establish t).Runs slot es r slot') :
    ∃ log rollback slot₁ cs, es = Stage.trace log ++ rollback ∧
      Logged (d.unguarded t) slot log r slot₁ ∧
      Settled log cs ∧ cs.map Call.duty <+: d.duties t ∧
      (rollback = [] ∨ ∃ token, Called (.deleteRealm t.name) token rollback) ∧
      (∀ before s after, log = before ++ s :: after → s.failure.isSome → after = []) ∧
      ∀ v, r = .ok v → rollback = [] ∧ (∀ s ∈ log, s.failure = none) ∧
        ((cs.map Call.duty = [.findRealm t.name] ∧
            ∃ es₁, ⟨looks t, es₁, .ok (some v)⟩ ∈ log) ∨
          cs.map Call.duty = d.duties t) := by
  obtain ⟨log, rollback, slot₁, rfl, course, guarded⟩ := establish_course run
  obtain ⟨cs, settled, asked, whole⟩ := course.logged.settled
  have ends := course.logged.ends
  refine ⟨log, rollback, slot₁, cs, rfl, course.logged, settled, asked.trans course.led,
    guarded.called, fun before s after => ends.last, fun v hv => ?_⟩
  have fine : ∀ s ∈ log, s.failure = none := by
    subst hv
    exact ends.fine
  refine ⟨guarded.spared_of_fine fine, fine, ?_⟩
  rw [whole v hv]
  exact course.complete v hv

/-- The module client is created, but the token expires while its role is looked up. The step begins
again with a new token and finds that the role is gone; then the realm is removed. -/
def renewedEvents : List Facility.Event :=
  [⟨.call "t" (.findRealm "acme"), .ok none⟩,
   ⟨.call "t" (.createRealm (usual.blueprint.realm usual.lifetimes .nil acme)),
    .ok (.created "admin/realms/acme")⟩,
   ⟨.call "t" (.createRole "acme" ⟨none, "System", some "Role of module service accounts"⟩),
    .ok (.created "roles/r1")⟩,
   ⟨.call "t" (.createRole "acme" ⟨none, "Password Reset", some "Allows resetting user passwords"⟩),
    .ok (.created "roles/r2")⟩,
   ⟨.now, (0 : Nat)⟩,
   ⟨.readSecret (Secret.key usual.plan.keyStart "acme" usual.plan.clients.moduleClientId),
    .ok (some "s")⟩,
   ⟨.call "t" (.createClient "acme" ((ClientPlan.forModules usual.plan.clients 0).client "s")),
    .ok (.created "clients/c")⟩,
   ⟨.call "t" (.serviceAccount "acme" "c"), .ok ⟨"u", none⟩⟩,
   ⟨.call "t" (.findRole "acme" "System"), .error .unauthorized⟩,
   ⟨.issueToken, .ok "t'"⟩,
   ⟨.call "t'" (.serviceAccount "acme" "c"), .ok ⟨"u", none⟩⟩,
   ⟨.call "t'" (.findRole "acme" "System"), .ok none⟩,
   ⟨.call "t'" (.deleteRealm "acme"), .ok true⟩]

theorem renewed_runs :
    (usual.establish acme).Runs ⟨some "t"⟩ renewedEvents (.error (.absent "role 'System'"))
      ⟨some "t'"⟩ :=
  .ask (.ask (.ask (.ask (.ask (.ask (.ask (.ask (.ask (.ask (.ask (.ask (.ask (.done _)))))))))))))

theorem establish_in_order_renewed :
    ∃ log rollback cs, renewedEvents = Stage.trace log ++ rollback ∧ Settled log cs ∧
      cs.map Call.duty <+: usual.duties acme ∧
      (rollback = [] ∨ ∃ token, Called (.deleteRealm "acme") token rollback) := by
  obtain ⟨log, rollback, _, cs, he, _, settled, led, after, _⟩ :=
    establish_in_order usual acme renewed_runs
  exact ⟨log, rollback, cs, he, settled, led, after⟩

end Tenancy.Realm
