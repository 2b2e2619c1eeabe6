import Tenancy.Proofs.Attribute.Invariant

/-!
# Operations that fail

A replacement reads and then writes, and either may go wrong; a batch may come with an attribute that
has no id. Whatever the reason, an operation that fails has changed nothing, so that the history goes
on as if it had not been issued. One that succeeds changes the attributes of its own tenant only.
And nothing else makes a replacement fail: it never hands over an attribute that has no id.
-/

namespace Tenancy.Attribute.Store

/-- What goes wrong during an operation. A write that goes wrong stores nothing. -/
structure Trouble where
  read : Option Chain
  write : Option Chain

/-- How a store answers while something goes wrong. -/
def answerIn (trouble : Trouble) (fresh : Nat → Uuid) : (q : Repository.Query) → StateM Store q.Answer
  | .find tenant =>
    match trouble.read with
    | some c => fun s => (.error c, s)
    | none => answer fresh (.find tenant)
  | .apply tenant batch =>
    match trouble.write with
    | some c => fun s => (.error c, s)
    | none => answer fresh (.apply tenant batch)
  | .freshIds => answer fresh .freshIds

/-- An operation as it is issued, with the ids that are made in it and what goes wrong during it. -/
structure Order where
  operation : Operation
  fresh : Nat → Uuid
  trouble : Trouble

/-- The failure of an operation, as it is told to those who issue it. -/
inductive Failure where
  | sync (fault : Fault)
  | upsertAll (error : PublicError)
  | apply (cause : Chain)

/-- The same outcome, its failure told in other words. -/
def retold {ε δ : Type} (tell : ε → δ) (outcome : Except ε (List Attribute) × Store) :
    Except δ (List Attribute) × Store := (outcome.1.mapError tell, outcome.2)

namespace Order

/-- Performs the operation; its answer is the list of attributes saved. -/
def perform (o : Order) (s : Store) : Except Failure (List Attribute) × Store :=
  match o.operation with
  | .sync tenant incoming =>
    retold .sync ((replaceAll tenant incoming).run.run (answerIn o.trouble o.fresh) s)
  | .upsertAll tenant incoming =>
    retold .upsertAll ((replaceAllPublic tenant incoming).run.run (answerIn o.trouble o.fresh) s)
  | .apply tenant batch =>
    retold .apply (answerIn o.trouble o.fresh (.apply tenant batch) s)

/-- The tenant whose attributes are concerned. -/
def tenant? (o : Order) : Option Uuid :=
  match o.operation with
  | .sync tenant _ => tenant
  | .upsertAll tenant _ => tenant
  | .apply tenant _ => some tenant

/-- What keeps an operation from being performed: a replacement has no tenant or fails to read or to
write; a batch fails to be written or has an attribute without an id. -/
def Hindered (o : Order) : Prop :=
  match o.operation with
  | .sync tenant _ | .upsertAll tenant _ =>
    tenant = none ∨ o.trouble.read.isSome ∨ o.trouble.write.isSome
  | .apply _ batch => o.trouble.write.isSome ∨ ∃ a ∈ batch.saved, a.id = none

end Order

/-- The answers to operations that are performed one after the other, and the store after them. -/
def historyFrom (s : Store) (orders : List Order) :
    List (Except Failure (List Attribute)) × Store :=
  orders.mapM (m := StateM Store) Order.perform s

/-- The same for a store that is empty at first. -/
def history (orders : List Order) : List (Except Failure (List Attribute)) × Store :=
  historyFrom .empty orders

/-! ## One operation -/

variable {ε δ : Type}

/-- An operation that fails if and only if it is hindered, changes nothing if it fails, and applies a
batch to the attributes of its tenant if it does not. -/
structure Contained (hindered : Prop) (tenant : Option Uuid) (s : Store)
    (outcome : Except ε (List Attribute) × Store) : Prop where
  fails : (∃ failure, outcome.1 = .error failure) ↔ hindered
  kept : ∀ failure, outcome.1 = .error failure → outcome.2 = s
  applied : ∀ saved, outcome.1 = .ok saved →
    ∃ t batch, tenant = some t ∧ s.apply t batch = .ok (outcome.2, saved)

namespace Contained

variable {hindered : Prop} {tenant : Option Uuid} {s : Store}
  {outcome : Except ε (List Attribute) × Store}

theorem failed (h : hindered) (failure : ε) :
    Contained hindered tenant s (.error failure, s) where
  fails := ⟨fun _ => h, fun _ => ⟨failure, rfl⟩⟩
  kept := fun _ _ => rfl
  applied := fun _ done => by cases done

theorem succeeded (h : ¬ hindered) {t : Uuid} {batch : Batch} {s' : Store} {saved : List Attribute}
    (ok : s.apply t batch = .ok (s', saved)) :
    Contained (ε := ε) hindered (some t) s (.ok saved, s') where
  fails := by
    refine ⟨fun ⟨_, wrong⟩ => ?_, fun hindered => (h hindered).elim⟩
    cases wrong
  kept := fun _ wrong => by cases wrong
  applied := by
    intro saved' done
    cases done
    exact ⟨t, batch, rfl, ok⟩

/-- It does not matter in which words a failure is told. -/
theorem retell (h : Contained hindered tenant s outcome) (tell : ε → δ) :
    Contained hindered tenant s (retold tell outcome) := by
  obtain ⟨answer, after⟩ := outcome
  cases answer with
  | ok saved =>
    refine ⟨⟨fun ⟨_, wrong⟩ => ?_, fun hindered => ?_⟩, fun _ wrong => ?_, fun saved' done => ?_⟩
    · cases wrong
    · obtain ⟨_, wrong⟩ := h.fails.mpr hindered
      cases wrong
    · cases wrong
    · cases done
      exact h.applied saved rfl
  | error failure =>
    have hindered : hindered := h.fails.mp ⟨failure, rfl⟩
    obtain rfl : after = s := h.kept failure rfl
    exact failed hindered (tell failure)

/-- The attributes of other tenants stay as they are. -/
theorem others (h : Contained hindered tenant s outcome) {other : Uuid}
    (apart : tenant ≠ some other) : outcome.2.get other = s.get other := by
  cases answer : outcome.1 with
  | error failure => rw [h.kept failure answer]
  | ok saved =>
    obtain ⟨t, batch, rfl, ok⟩ := h.applied saved answer
    obtain ⟨_, _, after⟩ := apply_ok ok
    rw [after, get_put, if_neg fun same => apart (congrArg some same.symm)]

theorem reachable (h : Contained hindered tenant s outcome) (reach : s.Reachable) :
    outcome.2.Reachable := by
  cases answer : outcome.1 with
  | error failure =>
    rw [h.kept failure answer]
    exact reach
  | ok saved =>
    obtain ⟨t, batch, _, ok⟩ := h.applied saved answer
    exact .applied reach ok

end Contained

section One

variable (s : Store) (trouble : Trouble) (fresh : Nat → Uuid)

/-- A replacement's batch is never refused: all that it saves has an id. -/
theorem between_accepted {s : Store} (reach : s.Reachable) (tenant : Uuid)
    (incoming : List Attribute) :
    ∃ result, s.apply tenant (Batch.between tenant fresh incoming (s.get tenant)) = .ok result :=
  ⟨_, apply_of_known (between_known tenant fresh incoming (reach.identified tenant).known)⟩

theorem replaceAll_contained {s : Store} (reach : s.Reachable) (tenant : Option Uuid)
    (incoming : List Attribute) :
    Contained (tenant = none ∨ trouble.read.isSome ∨ trouble.write.isSome) tenant s
      ((replaceAll tenant incoming).run.run (answerIn trouble fresh) s) := by
  obtain ⟨read, write⟩ := trouble
  cases tenant with
  | none =>
    exact Contained.failed (Or.inl rfl) (Fault.invalid "tenant_id" "tenant identifier is required")
  | some t =>
    cases read with
    | some c => exact Contained.failed (Or.inr (Or.inl rfl)) (Fault.storage c)
    | none =>
      cases write with
      | some c => exact Contained.failed (Or.inr (Or.inr rfl)) (Fault.storage c)
      | none =>
        show Contained _ _ s (s.sync fresh (some t) incoming)
        obtain ⟨⟨s', saved⟩, ok⟩ := between_accepted fresh reach t incoming
        rw [sync_some, ok]
        exact .succeeded (by simp) ok

theorem replaceAllPublic_run (tenant : Option Uuid) (incoming : List Attribute) :
    (replaceAllPublic tenant incoming).run.run (answerIn trouble fresh) s =
      retold Fault.publish ((replaceAll tenant incoming).run.run (answerIn trouble fresh) s) :=
  congrFun (Program.run_bind (answerIn trouble fresh) (replaceAll tenant incoming).run fun v =>
    .done (v.mapError Fault.publish)) s

theorem apply_contained (tenant : Uuid) (batch : Batch) :
    Contained (trouble.write.isSome ∨ ∃ a ∈ batch.saved, a.id = none) (some tenant) s
      (answerIn trouble fresh (.apply tenant batch) s) := by
  obtain ⟨read, write⟩ := trouble
  cases write with
  | some c => exact Contained.failed (Or.inl rfl) c
  | none =>
    by_cases missing : ∃ a ∈ batch.saved, a.id = none
    · obtain ⟨a, ha, unnamed⟩ := missing
      cases found : batch.saved.find? fun a => a.id.isNone with
      | none => exact absurd (List.find?_eq_none.mp found a ha) (by simp [unnamed])
      | some b =>
        have refused : answerIn ⟨read, none⟩ fresh (.apply tenant batch) s =
            (.error (.single ("attribute '" ++ b.key ++ "' has no id")), s) := by
          simp only [answerIn, answer, Store.apply, found]
        rw [refused]
        exact .failed (.inr ⟨a, ha, unnamed⟩) _
    · have known : ∀ a ∈ batch.saved, a.id.isSome = true := fun a ha =>
        Option.isSome_iff_ne_none.mpr fun unnamed => missing ⟨a, ha, unnamed⟩
      have ok : s.apply tenant batch =
          .ok (s.put tenant (batch.apply (s.get tenant)), batch.saved) := apply_of_known known
      have accepted : answerIn ⟨read, none⟩ fresh (.apply tenant batch) s =
          (.ok batch.saved, s.put tenant (batch.apply (s.get tenant))) := by
        simp only [answerIn, answer, ok]
      rw [accepted]
      exact .succeeded (by simpa using missing) ok

end One

theorem Order.contained {s : Store} (reach : s.Reachable) (o : Order) :
    Contained o.Hindered o.tenant? s (o.perform s) := by
  obtain ⟨operation, fresh, trouble⟩ := o
  cases operation with
  | sync tenant incoming =>
    exact (replaceAll_contained trouble fresh reach tenant incoming).retell Failure.sync
  | upsertAll tenant incoming =>
    have published := (replaceAll_contained trouble fresh reach tenant incoming).retell Fault.publish
    rw [← replaceAllPublic_run] at published
    exact published.retell Failure.upsertAll
  | apply tenant batch => exact (apply_contained s trouble fresh tenant batch).retell Failure.apply

/-! ## All operations -/

theorem historyFrom_cons (s : Store) (o : Order) (orders : List Order) :
    historyFrom s (o :: orders) =
      ((o.perform s).1 :: (historyFrom (o.perform s).2 orders).1,
        (historyFrom (o.perform s).2 orders).2) := by
  unfold historyFrom
  rw [List.mapM_cons]
  rfl

theorem historyFrom_append (s : Store) (past later : List Order) :
    historyFrom s (past ++ later) =
      ((historyFrom s past).1 ++ (historyFrom (historyFrom s past).2 later).1,
        (historyFrom (historyFrom s past).2 later).2) := by
  induction past generalizing s with
  | nil => rfl
  | cons o past ih => rw [List.cons_append, historyFrom_cons, ih, historyFrom_cons, List.cons_append]

theorem historyFrom_length (s : Store) (orders : List Order) :
    (historyFrom s orders).1.length = orders.length := by
  induction orders generalizing s with
  | nil => rfl
  | cons o orders ih => rw [historyFrom_cons, List.length_cons, List.length_cons, ih]

theorem historyFrom_reachable {s : Store} (reach : s.Reachable) (orders : List Order) :
    (historyFrom s orders).2.Reachable := by
  induction orders generalizing s with
  | nil => exact reach
  | cons o orders ih =>
    rw [historyFrom_cons]
    exact ih ((o.contained reach).reachable reach)

/-- After any history, an operation fails if and only if it is hindered. If it fails, the store is as
it was, and but for its own answer all later answers and stores are those of the history without it.
If it succeeds, other tenants' attributes are as they were. And a replacement's batch is never
refused for an attribute without an id. -/
theorem history_contained (past : List Order) (o : Order) :
    ((∃ failure, (o.perform (history past).2).1 = .error failure) ↔ o.Hindered) ∧
      (∀ failure, (o.perform (history past).2).1 = .error failure →
        (o.perform (history past).2).2 = (history past).2 ∧
          ∀ later, (history (past ++ o :: later)).1.eraseIdx past.length =
              (history (past ++ later)).1 ∧
            (history (past ++ o :: later)).2 = (history (past ++ later)).2) ∧
      (∀ saved, (o.perform (history past).2).1 = .ok saved →
        ∀ other, o.tenant? ≠ some other →
          (o.perform (history past).2).2.get other = (history past).2.get other) ∧
      ∀ tenant fresh incoming, ∃ result, (history past).2.apply tenant
        (Batch.between tenant fresh incoming ((history past).2.get tenant)) = .ok result := by
  have reach : (history past).2.Reachable := historyFrom_reachable .empty past
  have contained := o.contained reach
  refine ⟨contained.fails, fun failure wrong => ?_, fun _ _ other apart => contained.others apart,
    fun tenant fresh incoming => between_accepted fresh reach tenant incoming⟩
  have kept : (o.perform (history past).2).2 = (history past).2 := contained.kept failure wrong
  refine ⟨kept, fun later => ?_⟩
  have answered : (history past).1.length = past.length := historyFrom_length .empty past
  unfold history at kept answered ⊢
  rw [historyFrom_append, historyFrom_append, historyFrom_cons, kept, ← answered]
  refine ⟨?_, rfl⟩
  rw [List.eraseIdx_append_of_length_le (Nat.le_refl _), Nat.sub_self, List.eraseIdx_cons_zero]

/-- A batch with an attribute that has no id. -/
def nameless : Order :=
  ⟨.apply owner ⟨[], [⟨none, none, "b", "2"⟩]⟩, supply, ⟨none, none⟩⟩

/-- A replacement that nothing hinders. -/
def smooth : Order := ⟨.sync (some owner) [⟨none, none, "a", "1"⟩], supply, ⟨none, none⟩⟩

/-- A replacement that is written, one that fails to be written, and one that has no tenant. -/
def mishaps : List Order :=
  [smooth,
    ⟨.upsertAll (some owner) [⟨none, none, "a", "2"⟩], supply, ⟨none, some (.single "disk full")⟩⟩,
    ⟨.upsertAll none [⟨none, none, "a", "3"⟩], supply, ⟨none, none⟩⟩]

/-- The batch fails and leaves no trace; a replacement after the same past succeeds and leaves another
tenant alone. -/
theorem mishaps_contained :
    (∃ failure, (nameless.perform (history mishaps).2).1 = .error failure) ∧
      (history (mishaps ++ nameless :: mishaps)).2 = (history (mishaps ++ mishaps)).2 ∧
      ∃ saved, (smooth.perform (history mishaps).2).1 = .ok saved ∧
        (smooth.perform (history mishaps).2).2.get ⟨8⟩ = (history mishaps).2.get ⟨8⟩ := by
  obtain ⟨fails, kept, _, _⟩ := history_contained mishaps nameless
  obtain ⟨fails', _, others, _⟩ := history_contained mishaps smooth
  obtain ⟨failure, wrong⟩ := fails.mpr (.inr ⟨_, List.mem_singleton_self _, rfl⟩)
  have free : ¬ smooth.Hindered := by
    rintro (missing | broken | broken)
    · cases missing
    · cases broken
    · cases broken
  cases answer : (smooth.perform (history mishaps).2).1 with
  | error failure => exact absurd (fails'.mp ⟨failure, answer⟩) free
  | ok saved =>
    have apart : smooth.tenant? ≠ some ⟨8⟩ := by decide
    exact ⟨⟨failure, wrong⟩, ((kept failure wrong).2 mishaps).2, saved, rfl,
      others saved answer ⟨8⟩ apart⟩

end Tenancy.Attribute.Store
