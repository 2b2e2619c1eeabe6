import Tenancy.Proofs.Provider.World

/-!
# What work does to a provider

Work is done against a conforming provider. An attempt that looks at things first and changes
something last changes it or fails without effect, and so does the access that it is the attempt of:
a rejected token costs one more attempt, and all that came of the first one is nothing. Work within
a realm changes nothing outside of it, however it ends.
-/

namespace Tenancy

namespace Work

open Function (update)
open Provider Facility Session

variable {α β ε ε' : Type} {w w' : World} {slot slot' : TokenSlot} {es : List Facility.Event}

/-- It succeeded with its effect, or it failed and there is none. -/
def Whole (w : World) (effect : α → World → Prop) (r : Except ε α) (w' : World) : Prop :=
  match r with
  | .ok v => effect v w'
  | .error _ => w' = w

theorem Whole.mapError {effect : α → World → Prop} {r : Except ε α} (h : Whole w effect r w')
    (f : ε → ε') : Whole w effect (r.mapError f) w' := by
  cases r with
  | ok v => exact h
  | error e => exact h

theorem Whole.mono {effect effect' : α → World → Prop} {r : Except ε α} (h : Whole w effect r w')
    (implies : ∀ v w', effect v w' → effect' v w') : Whole w effect' r w' := by
  cases r with
  | ok v => exact implies v w' h
  | error e => exact h

/-! ## Attempts -/

/-- Every run of the attempt is whole. -/
def Attempt.Does (w : World) (x : Attempt α) (effect : α → World → Prop) : Prop :=
  ∀ ⦃es r w'⦄, x.run.Runs es r → Conforms w es w' → Whole w effect r w'

theorem Attempt.Does.call (w : World) (c : Call) (token : Token) :
    (Attempt.call c token).Does w (Succeeds w c) := by
  intro es r w' run conforms
  obtain ⟨a, rfl, rfl⟩ := Attempt.runs_call run
  cases conforms.of_call with
  | fault e => exact rfl
  | success h => exact h

theorem Attempt.Does.mono {x : Attempt α} {effect effect' : α → World → Prop} (h : x.Does w effect)
    (implies : ∀ v w', effect v w' → effect' v w') : x.Does w effect' :=
  fun _ _ _ run conforms => (h run conforms).mono implies

theorem Attempt.Does.refuse (w : World) (s : Setback) (effect : α → World → Prop) :
    (throw s : Attempt α).Does w effect := by
  intro es r w' run conforms
  obtain ⟨rfl, rfl⟩ := run.of_done
  exact conforms.of_nil

/-- What only looks may come first. -/
theorem Attempt.Does.bind {x : Attempt α} {f : α → Attempt β} {holds : α → Prop}
    {looks : α → World → Prop} {effect : β → World → Prop} (first : x.Does w looks)
    (still : ∀ v w₁, looks v w₁ → w₁ = w ∧ holds v) (rest : ∀ v, holds v → (f v).Does w effect) :
    (x >>= f).Does w effect := by
  intro es r w' run conforms
  rcases run.of_exceptBind with ⟨s, failed, rfl⟩ | ⟨v, es₁, es₂, rfl, here, there⟩
  · exact first failed conforms
  · obtain ⟨w₁, before, after⟩ := conforms.of_append
    obtain ⟨rfl, known⟩ := still v w₁ (first here before)
    exact rest v known there after

/-! ## Accesses -/

theorem accessed_whole {context : String} {attempt : Token → Attempt α}
    {effect : α → World → Prop} {r : Except Fault α} (does : ∀ t, (attempt t).Does w effect)
    (h : Accessed issue context (fun t => (attempt t).run) slot es r slot')
    (conforms : Conforms w es w') : Whole w effect r w' := by
  cases h with
  | tokenless issued => exact conforms.of_waits (issue_waits issued)
  | once token tried _ =>
    obtain ⟨w₁, before, after⟩ := conforms.of_append
    obtain rfl := before.of_waits (obtained_waits token)
    exact (does _ tried after).mapError _
  | unrenewed token tried renewed =>
    obtain ⟨w₁, before, after⟩ := conforms.of_append
    obtain rfl := before.of_waits (obtained_waits token)
    obtain ⟨w₂, first, last⟩ := after.of_append
    obtain rfl : w₂ = w₁ := does _ tried first
    exact last.of_waits (issue_waits renewed)
  | twice token tried renewed retried =>
    obtain ⟨w₁, before, after⟩ := conforms.of_append
    obtain rfl := before.of_waits (obtained_waits token)
    obtain ⟨w₂, first, last⟩ := after.of_append
    -- The attempt whose token was rejected has failed, so the second one starts where it did.
    obtain rfl : w₂ = w₁ := does _ tried first
    obtain ⟨w₃, between, second⟩ := last.of_append
    obtain rfl := between.of_waits (issue_waits renewed)
    exact (does _ retried second).mapError _

theorem calls_whole {context : String} {attempt : Token → Attempt α} {effect : α → World → Prop}
    {r : Except Fault α} (does : ∀ t, (attempt t).Does w effect)
    (run : (Work.calls context attempt).Runs slot es r slot') (conforms : Conforms w es w') :
    Whole w effect r w' :=
  accessed_whole does (Runs.of_access run) conforms

theorem call_whole {context : String} {c : Call} {r : Except Fault c.Answer}
    (run : (Work.call context c).Runs slot es r slot') (conforms : Conforms w es w') :
    Whole w (Succeeds w c) r w' :=
  accessed_whole (fun t => .call w c t) (Runs.of_access run) conforms

theorem received_outcome {receipt : Receipt} {made : String → World → Prop} (context : String)
    (h : Received w receipt made w') : Whole w made (receipt.outcome context) w' := by
  unfold Receipt.outcome
  cases h with
  | refused failure same =>
    rw [failure, if_neg Bool.false_ne_true]
    exact same
  | accepted success carried made =>
    rw [if_pos success, carried]
    exact made

/-- A creation makes a thing and finds out its id, or it fails without effect. -/
theorem create_whole {ρ : Type} [Resource ρ] {thing : ρ} {r : Except Fault String}
    {attempt : Token → Program Facility (Except ProviderError Receipt)}
    {made : String → World → Prop}
    (does : ∀ t, Attempt.Does w (ExceptT.mk ((·.mapError Setback.raw) <$> attempt t))
      fun receipt => Received w receipt made)
    (run : (Work.create thing attempt).Runs slot es r slot') (conforms : Conforms w es w') :
    Whole w made r w' := by
  obtain ⟨a, accessed, rfl⟩ := runs_create run
  have whole := accessed_whole does accessed conforms
  cases a with
  | error f => exact whole
  | ok receipt => exact received_outcome _ whole

/-! ## Work within a realm -/

/-- The world with the realm left as it should be. -/
def Leaves (w : World) (realm : String) (outcome : α → Contents → Prop) (v : α) (w' : World) : Prop :=
  ∃ c, w' = update w realm (some c) ∧ outcome v c

/-- Wherever the realm is kept with these contents, a run of the work leaves it with others, which
are as they should be if it succeeds, and changes no other realm. -/
def Turns (realm : String) (c : Contents) (x : Work α) (outcome : α → Contents → Prop) : Prop :=
  ∀ ⦃w slot es r slot' w'⦄, x.Runs slot es r slot' → Conforms (update w realm (some c)) es w' →
    ∃ c', w' = update w realm (some c') ∧ ∀ v, r = .ok v → outcome v c'

variable {realm : String} {c : Contents}

theorem Turns.pure {v : α} {outcome : α → Contents → Prop} (h : outcome v c) :
    Turns realm c (Pure.pure v) outcome := by
  intro w slot es r slot' w' run conforms
  obtain ⟨rfl, rfl, rfl⟩ := run.of_pure
  refine ⟨c, conforms.of_nil, fun u hu => ?_⟩
  cases hu
  exact h

theorem Turns.throw (f : Fault) (outcome : α → Contents → Prop) :
    Turns realm c (throw f) outcome := by
  intro w slot es r slot' w' run conforms
  obtain ⟨rfl, rfl, rfl⟩ := run.of_throw
  exact ⟨c, conforms.of_nil, fun v hv => by cases hv⟩

theorem Turns.bind {x : Work α} {f : α → Work β} {outcome : α → Contents → Prop}
    {outcome' : β → Contents → Prop} (first : Turns realm c x outcome)
    (rest : ∀ v c₁, outcome v c₁ → Turns realm c₁ (f v) outcome') :
    Turns realm c (x >>= f) outcome' := by
  intro w slot es r slot' w' run conforms
  rcases run.of_bind with ⟨e, failed, rfl⟩ | ⟨v, es₁, es₂, slot₁, rfl, here, there⟩
  · obtain ⟨c', kept, _⟩ := first failed conforms
    exact ⟨c', kept, fun v hv => by cases hv⟩
  · obtain ⟨w₁, before, after⟩ := conforms.of_append
    obtain ⟨c₁, rfl, good⟩ := first here before
    exact rest v c₁ (good v rfl) there after

theorem Turns.mono {x : Work α} {outcome outcome' : α → Contents → Prop}
    (h : Turns realm c x outcome) (implies : ∀ v c', outcome v c' → outcome' v c') :
    Turns realm c x outcome' := by
  intro w slot es r slot' w' run conforms
  obtain ⟨c', kept, good⟩ := h run conforms
  exact ⟨c', kept, fun v hv => implies v c' (good v hv)⟩

theorem asked_waits {q : Facility.Query} {a : q.Answer} (other : ∀ t call, q ≠ .call t call)
    (run : (Facility.ask q).Runs es a) : ∀ e ∈ es, Waits e := by
  rw [run.of_query]
  exact waits_alone other

theorem Turns.lift {x : Program Facility (Except Fault α)}
    (idle : ∀ {es r}, x.Runs es r → ∀ e ∈ es, Waits e) :
    Turns realm c (Session.lift x) fun _ c' => c' = c := by
  intro w slot es r slot' w' run conforms
  have asked := (Runs.of_lift run).1
  exact ⟨c, conforms.of_waits (idle asked), fun _ _ => rfl⟩

theorem Turns.ask {q : Facility.Query} (other : ∀ t call, q ≠ .call t call) :
    Turns realm c (Work.ask q) fun _ c' => c' = c := by
  refine .lift fun run => ?_
  obtain ⟨_, _, asked⟩ := run.of_map
  exact asked_waits other asked

theorem Turns.whole {x : Work α} {outcome : α → Contents → Prop}
    (does : ∀ {w slot es r slot' w'}, x.Runs slot es r slot' →
      Conforms (update w realm (some c)) es w' →
        Whole (update w realm (some c)) (Leaves w realm outcome) r w') :
    Turns realm c x outcome := by
  intro w slot es r slot' w' run conforms
  have whole := does run conforms
  cases r with
  | ok v =>
    obtain ⟨c', kept, good⟩ := whole
    refine ⟨c', kept, fun u hu => ?_⟩
    cases hu
    exact good
  | error f => exact ⟨c, whole, fun v hv => by cases hv⟩

theorem Turns.create {ρ : Type} [Resource ρ] {thing : ρ}
    {attempt : Token → Program Facility (Except ProviderError Receipt)}
    {change : String → Contents → Contents → Prop}
    (does : ∀ w t, Attempt.Does w (ExceptT.mk ((·.mapError Setback.raw) <$> attempt t))
      fun receipt => Received w receipt fun id => Within w realm (change id)) :
    Turns realm c (Work.create thing attempt) fun id => change id c :=
  .whole fun run conforms =>
    (create_whole (does _) run conforms).mono fun _ _ => within_update_iff.mp

theorem Turns.call {context : String} {call : Call} {outcome : call.Answer → Contents → Prop}
    (leaves : ∀ {w v w'}, Succeeds (update w realm (some c)) call v w' →
      Leaves w realm outcome v w') :
    Turns realm c (Work.call context call) outcome :=
  .whole fun run conforms => (call_whole run conforms).mono fun _ _ => leaves

theorem Turns.look {context : String} {call : Call} {holds : call.Answer → Contents → Prop}
    (seen : ∀ {w v w'}, Succeeds w call v w' → Seen w realm (holds v) w') :
    Turns realm c (Work.call context call) fun v c' => c' = c ∧ holds v c := by
  refine .call fun {w v w'} succeeds => ?_
  obtain ⟨rfl, held⟩ := seen_update_iff.mp (seen succeeds)
  exact ⟨c, rfl, rfl, held⟩

theorem Turns.calls {context : String} {attempt : Token → Attempt α}
    {outcome : α → Contents → Prop}
    (does : ∀ w t, (attempt t).Does (update w realm (some c)) (Leaves w realm outcome)) :
    Turns realm c (Work.calls context attempt) outcome :=
  .whole fun run conforms => calls_whole (does _) run conforms

end Work

end Tenancy
