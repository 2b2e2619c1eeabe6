import Tenancy.Proofs.Listener.Fanout
import Tenancy.Proofs.Realm.Orphan
import Tenancy.Proofs.Realm.Retirement
import Tenancy.Proofs.Registry.Mirroring
import Tenancy.Service

/-!
# The listeners of the service

The realm's listener asks the provider and what it needs for that, the registry's listener asks the
registry, and only the last one cleans topics. As each is told after the ones before it succeeded, a
request to the registry shows that the realm is in order, and a cleaning that the realm and the
registration are. A deletion that got stuck can be repeated: what is gone already is no obstacle, so
every listener that was reached is reached again.
-/

namespace Tenancy

open Session Work Provider
open Listener (Round Told tellEach)

variable {e : Event} {ctx : RequestContext} {js : List Outside.Event} {j : Outside.Event}
  {slot slot' : TokenSlot} {r : Except PublicError Unit}

/-! ## Who asks what -/

/-- A request to some registry. -/
def Registry.Asked (q : Http.Request) : Prop :=
  ∃ (remote : Remote) (ctx : RequestContext) (method : Http.Method) (tenant : Option String)
    (body : Option Descriptor), remote.request ctx method tenant body = .ok q

/-- It names the request that it is made for, as no other request does. -/
theorem Registry.Asked.marked {q : Http.Request} (h : Registry.Asked q) :
    q.header? "x-okapi-request-id" ≠ none := by
  obtain ⟨remote, ctx, method, tenant, body, made⟩ := h
  unfold Remote.request at made
  split at made
  · cases made
  · cases made
    cases body <;> cases ctx.callerToken <;> nofun

/-- Nothing that a registry or a cleaner of topics has to do with. -/
def Apart : Outside.Event → Prop
  | ⟨.exchange q, _⟩ => ¬ Registry.Asked q
  | ⟨.cleanTopics _, _⟩ => False
  | _ => True

theorem Provider.Call.request_apart {base : Url} {t : Token} {c : Call} {q : Http.Request}
    (h : c.request base t = .ok q) : ¬ Registry.Asked q := by
  obtain ⟨_, _, made⟩ := Call.requested h
  refine fun asked => asked.marked ?_
  rcases made.headers with headers | headers <;> rw [Http.Request.header?, headers] <;> rfl

theorem Provider.Login.asks_apart {l : Login} (h : l.Asks j) : Apart j := by
  obtain ⟨q, a⟩ := j
  rcases h with ⟨key, asked⟩ | ⟨secret, password, asked⟩
  · cases asked
    trivial
  · cases asked
    exact fun registry => registry.marked rfl

theorem find_apart {p : Endpoint} {q : Facility.Query} {a : q.Answer}
    (h : (p.find q).Runs js a) : ∀ j ∈ js, Apart j := by
  have single {q : Outside.Query} {a : q.Answer} (h : (Outside.ask q).Runs js a)
      (apart : ∀ a, Apart ⟨q, a⟩) : ∀ j ∈ js, Apart j := by
    intro j hj
    rw [h.of_query] at hj
    obtain rfl := List.mem_singleton.mp hj
    exact apart a
  cases q with
  | call t c =>
    rcases Call.runs_perform h with ⟨rfl, _⟩ | ⟨q, o, made, _, rfl, _⟩
    · exact fun j hj => (List.not_mem_nil hj).elim
    · intro j hj
      obtain rfl := List.mem_singleton.mp hj
      exact Call.request_apart made
  | issueToken => exact fun j hj => Login.asks_apart ((Login.runs_issue h).1 j hj)
  | readSecret key => exact single (q := .readSecret key) h fun _ => trivial
  | writeSecret key value => exact single (q := .writeSecret key value) h fun _ => trivial
  | entropy => exact single (q := .entropy) h fun _ => trivial
  | now => exact single (q := .now) h fun _ => trivial

theorem through_apart {α : Type} {p : Endpoint} {w : Work α} {r : Except Fault α}
    (h : (w.through p).Runs slot js r slot') : ∀ j ∈ js, Apart j := by
  obtain ⟨es, _, carried⟩ := runs_through h
  intro j hj
  obtain ⟨e, _, ks, run, within⟩ := carried.source hj
  exact find_apart run j within

/-- A request to a server and its answer. -/
def Exchanged : Outside.Event → Prop
  | ⟨.exchange _, _⟩ => True
  | _ => False

theorem perform_exchanges {α : Type} {action : String} {request : Except Fault Http.Request}
    {judge : Status → Option α} {v : Except Fault α}
    (h : (Registry.Remote.perform action request judge).Runs js v) : ∀ j ∈ js, Exchanged j := by
  cases request with
  | error f =>
    obtain ⟨rfl, _⟩ := h.of_done
    exact fun j hj => (List.not_mem_nil hj).elim
  | ok q =>
    rw [Registry.Remote.perform_eq] at h
    obtain ⟨js₁, js₂, o, rfl, sent, done⟩ := Program.Runs.of_bind h
    obtain ⟨rfl, _⟩ := done.of_done
    rcases runs_send sent with ⟨_, _, _, rfl⟩ | ⟨_, rfl⟩ <;> simp [Exchanged]

theorem registry_exchanges {remote : Registry.Remote}
    (h : (remote.listener.hear ctx e).Runs js r) : ∀ j ∈ js, Exchanged j := by
  -- What follows a lookup follows it whatever it found, so the two listeners that look have one case.
  have both {name : String} {f : Except Fault Bool → Program Outside (Except Fault Unit)}
      {u : Except Fault Unit} (run : ((remote.contains ctx name).bind f).Runs js u)
      (after : ∀ found js, (f found).Runs js u → ∀ j ∈ js, Exchanged j) : ∀ j ∈ js, Exchanged j := by
    obtain ⟨js₁, js₂, found, rfl, looked, rest⟩ := Program.Runs.of_bind run
    exact List.forall_mem_append.mpr ⟨perform_exchanges looked, after found js₂ rest⟩
  have nothing {u v : Except Fault Unit} (js : List Outside.Event)
      (run : (Program.done (I := Outside) u).Runs js v) : ∀ j ∈ js, Exchanged j := by
    obtain ⟨rfl, _⟩ := run.of_done
    exact fun j hj => (List.not_mem_nil hj).elim
  cases e with
  | created t =>
    obtain ⟨u, rfl, ensured⟩ := Program.Runs.of_map h
    refine both ensured fun found js run => ?_
    match found with
    | .error _ | .ok true => exact nothing js run
    | .ok false => exact perform_exchanges run
  | updated t =>
    obtain ⟨u, rfl, upserted⟩ := Program.Runs.of_map h
    refine both upserted fun found js run => ?_
    match found with
    | .error _ => exact nothing js run
    | .ok true | .ok false => exact perform_exchanges run
  | deleted name =>
    obtain ⟨u, rfl, erased⟩ := Program.Runs.of_map h
    exact perform_exchanges erased

namespace Service

variable {d : Realm.Design} {p : Endpoint}

/-! ## The listeners as they are registered -/

/-- What the realm's listener does about an event. -/
def realmWork (d : Realm.Design) : Event → Work Unit
  | .created t => discard (d.establish t)
  | .updated t => d.revise t
  | .deleted name => Realm.retire name

theorem runs_realm (h : (((realmListener d p).hear ctx e).run slot).Runs js (r, slot')) :
    ∃ r₀, r = r₀.mapError Fault.publish ∧ ((realmWork d e).through p).Runs slot js r₀ slot' := by
  have acts : (realmListener d p).hear ctx e =
      (·.mapError Fault.publish) <$> act p (realmWork d e) := by cases e <;> rfl
  rw [acts] at h
  obtain ⟨js₁, js₂, ⟨r₀, slot₁⟩, rfl, run, done⟩ := Program.Runs.of_bind h
  obtain ⟨rfl, same⟩ := Program.Runs.of_done done
  cases same
  rw [List.append_nil]
  exact ⟨r₀, rfl, run⟩

/-- A listener that keeps nothing does in the service what it does alone. -/
theorem runs_hoist {l : Listener (Program Outside)}
    (h : (((l.hoist fun x => liftM x : Listener Action).hear ctx e).run slot).Runs js (r, slot')) :
    (l.hear ctx e).Runs js r ∧ slot' = slot := by
  have lifts : (l.hoist fun x => liftM x : Listener Action).hear ctx e = liftM (l.hear ctx e) := by
    cases e <;> rfl
  rw [lifts] at h
  obtain ⟨js₁, js₂, r₀, rfl, run, done⟩ := Program.Runs.of_bind h
  obtain ⟨rfl, same⟩ := Program.Runs.of_done done
  cases same
  rw [List.append_nil]
  exact ⟨run, rfl⟩

/-! ## In order -/

/-- The registry is asked only once the realm's listener succeeded, and topics are cleaned only once
the registry's listener succeeded as well, if there is a registry. -/
structure InOrder (s : Service) (x : Round TokenSlot Outside) : Prop where
  registry : ∀ before q o after, x.events = before ++ ⟨.exchange q, o⟩ :: after → Registry.Asked q →
    ∃ first rest slot, before = first ++ rest ∧
      (((realmListener s.design s.provider).hear x.context x.event).run x.before).Runs first
        (.ok (), slot)
  topics : ∀ before name a after, x.events = before ++ ⟨.cleanTopics name, a⟩ :: after →
    ∃ first second slot, before = first ++ second ∧
      (((realmListener s.design s.provider).hear x.context x.event).run x.before).Runs first
        (.ok (), slot) ∧
      ∀ remote, s.registry = some remote →
        ∃ third rest, second = third ++ rest ∧
          (remote.listener.hear x.context x.event).Runs third (.ok ())

theorem realm_apart (js : List Outside.Event) (r : Except PublicError Unit) (slot' : TokenSlot)
    (h : (((realmListener d p).hear ctx e).run slot).Runs js (r, slot')) : ∀ j ∈ js, Apart j := by
  obtain ⟨_, _, run⟩ := runs_realm h
  exact through_apart run

theorem fans_in_order {s : Service} {x : Round TokenSlot Outside} (h : x.FansOut s.listeners) :
    s.InOrder x where
  registry before q o after parts asked := by
    have other : ¬ Apart ⟨.exchange q, o⟩ := fun apart => apart asked
    obtain ⟨first, rest, slot, _, rfl, run, _⟩ := h.asked_later (P := Apart) realm_apart other parts
    exact ⟨first, rest, slot, rfl, run⟩
  topics before name a after parts := by
    obtain ⟨first, second, slot, calls, rfl, run, later, parts⟩ :=
      h.asked_later (P := Apart) realm_apart id parts
    refine ⟨first, second, slot, rfl, run, fun remote there => ?_⟩
    rw [there] at later
    obtain ⟨third, rest, _, _, rfl, run, _⟩ := later.asked_later (P := Exchanged)
      (fun js r slot run => registry_exchanges (runs_hoist run).1) id parts
    exact ⟨third, rest, rfl, (runs_hoist run).1⟩

/-! ## Once more -/

/-- Nothing stands in the way: there is a token that can be sent, and whatever is asked with it, or
of the registry, settles. -/
structure Unhindered (s : Service) (x : Round TokenSlot Outside) : Prop where
  token : ∃ t taken rest, x.events = taken ++ rest ∧
    Obtained s.provider.login.issue x.before taken t ∧ Http.isHeaderValue t = true
  settled : ∀ q o, ⟨.exchange q, o⟩ ∈ x.events → q.method ≠ .post → Settles q o

variable {name : String}

/-- The deletion of a realm succeeds where it did. -/
theorem realm_again {s : Service} {ctx' : RequestContext} {x : Round TokenSlot Outside}
    {first : TokenSlot} {left : List Outside.Event}
    (run : (((realmListener s.design s.provider).hear ctx' (.deleted name)).run first).Runs js
      (.ok (), slot))
    (run' : (((realmListener s.design s.provider).hear x.context (.deleted name)).run x.before).Runs
      js' (r, slot'))
    (events : x.events = js' ++ left) (unhindered : s.Unhindered x) : r = .ok () := by
  obtain ⟨⟨t, taken, rest, had, token, valid⟩, settled⟩ := unhindered
  obtain ⟨r₀, ok, retired⟩ := runs_realm run
  obtain ⟨r₁, rfl, retired'⟩ := runs_realm run'
  have serves : s.provider.base.ServesRealm name := by
    cases r₀ with
    | error f => cases ok
    | ok => exact retire_serves retired
  rw [retire_settled serves retired' token (events.symm.trans had) valid
    fun q o sent => settled q o (by rw [events]; exact List.mem_append_left _ sent)]
  rfl

/-- A registry that did what it was told could be asked. -/
theorem registry_reached {remote : Registry.Remote}
    (run : (remote.listener.hear ctx e).Runs js (.ok ())) : remote.Reaches ctx (some e.name) := by
  by_contra stuck
  obtain ⟨m, nothing⟩ := Registry.unheard stuck
  rw [nothing] at run
  cases run.of_done.2

theorem registry_again {remote : Registry.Remote} (reaches : remote.Reaches ctx (some name))
    (run : (remote.listener.hear ctx (.deleted name)).Runs js r)
    (settled : ∀ q o, ⟨.exchange q, o⟩ ∈ js → q.method ≠ .post → Settles q o) : r = .ok () := by
  obtain ⟨q, o, drop, ends, rfl⟩ := Registry.runs_drop reaches run
  have delete := (Registry.Remote.asks_of_request drop).method
  obtain ⟨reply, rfl, answered⟩ := settled _ _ List.mem_cons_self (by rw [delete]; nofun)
  refine ends.ok fun ⟨failed, other⟩ => ?_
  rcases answered with missing | ⟨success, _⟩
  · exact (other missing).2 delete
  · rw [success] at failed
    cases failed

/-- Every listener that was told of a deletion is told of it again. -/
theorem deletion_reaches {s : Service} {x y : Round TokenSlot Outside}
    (hx : x.FansOut s.listeners) (hy : y.FansOut s.listeners) (deleted : x.event = .deleted name)
    (repeated : y.event = .deleted name)
    (reaches : ∀ remote, s.registry = some remote → remote.Reaches x.context (some name) →
      remote.Reaches y.context (some name))
    (unhindered : s.Unhindered y) : x.calls.map (·.listener) <+: y.calls.map (·.listener) := by
  refine hx.again hy ?_ ?_
  · intro js slot js' rest r slot' run run' events
    rw [deleted] at run
    rw [repeated] at run'
    exact realm_again run run' events unhindered
  intro slot cs slot' ds ks later later' events
  -- What cleans topics comes last and need not succeed.
  have short : (if s.cleansTopics then [(topicListener.hoist fun x => liftM x : Listener Action)]
      else []).length ≤ 1 := by split <;> simp
  cases there : s.registry with
  | none =>
    rw [there] at later later'
    exact later.again_of_short later' short
  | some remote =>
    rw [there] at later later'
    refine later.again later' ?_ ?_
    · intro js slot js' rest r slot' run run' told
      rw [deleted] at run
      have reached := registry_reached (runs_hoist run).1
      have run' := (runs_hoist run').1
      have told : ds.flatMap (·.events) = js' ++ rest := told
      rw [repeated] at run'
      rw [told] at events
      refine registry_again (reaches remote there reached) run' ?_
      refine fun q o sent => unhindered.settled q o ?_
      rw [events]
      exact List.mem_append_right _ (List.mem_append_left _ sent)
    · intro _ cs _ ds _ later later' _
      exact later.again_of_short later' short

/-! ## Any number of events -/

/-- Whoever listens, every event is told to one listener after the other up to the first that fails,
and ends as the last call did. In the service every event is told in order. If a deletion got stuck
and is repeated, and nothing stands in the way, it gets at least as far as before. -/
theorem listeners_fan_out :
    (∀ (σ : Type) (I : Interface) (ls : List (Listener (StateT σ (Program I)))) news s es rs s',
      ((tellEach ls news).run s).Runs es (rs, s') → ∃ rounds, Told ls news s es rs s' rounds) ∧
    (∀ (s : Service) (news : List (RequestContext × Event)) slot es rs slot',
      ((news.mapM fun x => s.tell x.1 x.2).run slot).Runs es (rs, slot') →
      ∃ rounds, Told s.listeners news slot es rs slot' rounds ∧ ∀ x ∈ rounds, s.InOrder x) ∧
    ∀ (s : Service) (x y : Round TokenSlot Outside) name, x.FansOut s.listeners →
      y.FansOut s.listeners → x.event = .deleted name → y.event = .deleted name →
      (∀ remote, s.registry = some remote → remote.Reaches x.context (some name) →
        remote.Reaches y.context (some name)) →
      s.Unhindered y → x.calls.map (·.listener) <+: y.calls.map (·.listener) := by
  refine ⟨fun σ I ls news s es rs s' run => Listener.runs_tellEach run, ?_, ?_⟩
  · intro s news slot es rs slot' run
    have told : ((tellEach s.listeners news).run slot).Runs es (rs, slot') := run
    obtain ⟨rounds, told⟩ := Listener.runs_tellEach told
    exact ⟨rounds, told, fun x hx => fans_in_order (told.fans x hx)⟩
  · intro s x y name hx hy deleted repeated reaches unhindered
    exact deletion_reaches hx hy deleted repeated reaches unhindered

/-- A service with a registry, which also cleans topics. -/
def whole : Service := ⟨Realm.usual, Realm.kc, some Registry.here, true⟩

/-- The registry is asked to forget a tenant. -/
def forgetting : Http.Request :=
  ⟨.delete, { Registry.here.base with path := .segments ["_", "proxy", "tenants", "acme"] },
    [("x-okapi-request-id", Uuid.nil.text), ("x-okapi-token", "tok")], none⟩

/-- The deletion of a tenant that has neither a realm nor an entry, but perhaps topics. -/
def remains (cleaned : Except Chain Unit) : List Outside.Event :=
  [Realm.unfound, ⟨.exchange forgetting, .ok ⟨.notFound, [], .ok []⟩⟩,
   ⟨.cleanTopics "acme", cleaned⟩]

/-- The topics cannot be cleaned at first. -/
theorem deletion_repeated :
    let news := [(Registry.caller, Event.deleted "acme")]
    let stuck : Except PublicError Unit := .error (.internal "topic cleanup failed: no broker")
    ((tellEach whole.listeners news).run ⟨some "t"⟩).Runs (remains (.error (.single "no broker")))
        ([stuck], ⟨some "t"⟩) ∧
      ((news.mapM fun x => whole.tell x.1 x.2).run ⟨some "t"⟩).Runs (remains (.ok ()))
        ([.ok ()], ⟨some "t"⟩) ∧
      ∃ x y : Round TokenSlot Outside, x.result = stuck ∧ y.result = .ok () ∧
        x.FansOut whole.listeners ∧ y.FansOut whole.listeners ∧ whole.InOrder y ∧
        Registry.here.Reaches y.context (some "acme") ∧ whole.Unhindered y ∧
        x.calls.map (·.listener) <+: y.calls.map (·.listener) := by
  intro news stuck
  have run : ((tellEach whole.listeners news).run ⟨some "t"⟩).Runs
      (remains (.error (.single "no broker"))) ([stuck], ⟨some "t"⟩) := .ask (.ask (.ask (.done _)))
  have run' : ((news.mapM fun x => whole.tell x.1 x.2).run ⟨some "t"⟩).Runs
      (remains (.ok ())) ([.ok ()], ⟨some "t"⟩) := .ask (.ask (.ask (.done _)))
  obtain ⟨every, ordered, again⟩ := listeners_fan_out
  obtain ⟨rounds, told⟩ := every _ _ _ _ _ _ _ _ run
  obtain ⟨x, rfl, _, deleted, _, failed, _, fans⟩ := told.alone
  obtain ⟨rounds, told, inOrder⟩ := ordered _ _ _ _ _ _ run'
  obtain ⟨y, rfl, context, repeated, before, succeeded, events, fans'⟩ := told.alone
  have reaches : Registry.here.Reaches y.context (some "acme") := by
    rw [context]
    decide
  have unhindered : whole.Unhindered y := by
    refine ⟨⟨"t", [], y.events, rfl, ?_, rfl⟩, ?_⟩
    · rw [before]
      exact .kept "t"
    · intro q o sent _
      refine ⟨⟨.notFound, [], .ok []⟩, ?_, .inl rfl⟩
      rw [events] at sent
      rcases List.mem_cons.mp sent with same | sent
      · cases same
        rfl
      rcases List.mem_cons.mp sent with same | sent
      · cases same
        rfl
      · cases List.mem_singleton.mp sent
  refine ⟨run, run', x, y, failed, succeeded, fans, fans', inOrder y (List.mem_singleton.mpr rfl),
    reaches, unhindered, again whole x y "acme" fans fans' deleted repeated ?_ unhindered⟩
  rintro _ ⟨⟩ _
  exact reaches

end Service

end Tenancy
