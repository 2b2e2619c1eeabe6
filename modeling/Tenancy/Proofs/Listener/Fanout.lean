import Mathlib.Data.List.Basic
import Tenancy.Listener
import Tenancy.Proofs.Program.Runs

/-!
# Who is told what

Listeners may keep a state, ask questions and fail as they like. Whatever they do, telling them of
something is a row of calls, each with a run of its own: one listener after the other in the order of
registration, none of them twice, up to the first one that fails or else to the last one. What comes
of it is what came of the last call. Of several events, each is told in this way after the one before
it, whatever came of that one.
-/

namespace Tenancy

/-- Parts that follow each other from one state to another: each begins in the state in which the one
before it ended. -/
def Threaded {γ σ : Type} (enter leave : γ → σ) : σ → List γ → σ → Prop
  | s, [], s' => s' = s
  | s, c :: cs, s' => enter c = s ∧ Threaded enter leave (leave c) cs s'

namespace Listener

variable {σ : Type} {I : Interface}

/-- A listener is called in some state: its questions and their answers, what it ends with, and the
state in which it leaves off. -/
structure Call (σ : Type) (I : Interface) where
  listener : Listener (StateT σ (Program I))
  before : σ
  events : List I.Event
  result : Except PublicError Unit
  after : σ

/-- The call is a run of its listener on an event. -/
def Call.Runs (c : Call σ I) (ctx : RequestContext) (e : Event) : Prop :=
  ((c.listener.hear ctx e).run c.before).Runs c.events (c.result, c.after)

/-- How an event was told to some listeners. -/
structure Round (σ : Type) (I : Interface) where
  context : RequestContext
  event : Event
  before : σ
  calls : List (Call σ I)
  result : Except PublicError Unit
  after : σ

namespace Round

/-- All that was asked while the event was told. -/
def events (x : Round σ I) : List I.Event := x.calls.flatMap (·.events)

/-- The calls are runs of listeners on the event, in the order of registration and without gaps, and
stop at the first failure, which is passed on. If there is none, all listeners were called. -/
structure FansOut (ls : List (Listener (StateT σ (Program I)))) (x : Round σ I) : Prop where
  order : x.calls.map (·.listener) <+: ls
  runs : ∀ c ∈ x.calls, c.Runs x.context x.event
  threaded : Threaded (·.before) (·.after) x.before x.calls x.after
  outcome : (x.calls.map (·.listener) = ls ∧ (∀ c ∈ x.calls, c.result = .ok ()) ∧ x.result = .ok ()) ∨
    ∃ done c f, x.calls = done ++ [c] ∧ (∀ c ∈ done, c.result = .ok ()) ∧ c.result = .error f ∧
      x.result = .error f

end Round

variable {ls : List (Listener (StateT σ (Program I)))} {ctx : RequestContext} {e : Event}
  {s s' : σ} {es : List I.Event}

/-- Tells listeners of one event after the other, and collects what comes of each. -/
def tellEach (ls : List (Listener (StateT σ (Program I)))) (news : List (RequestContext × Event)) :
    StateT σ (Program I) (List (Except PublicError Unit)) :=
  news.mapM fun x => tellAll x.1 x.2 ls

/-- How some listeners were told of several events, one round for each of them. -/
structure Told (ls : List (Listener (StateT σ (Program I)))) (news : List (RequestContext × Event))
    (s : σ) (es : List I.Event) (rs : List (Except PublicError Unit)) (s' : σ)
    (rounds : List (Round σ I)) : Prop where
  news : rounds.map (fun x => (x.context, x.event)) = news
  results : rounds.map (·.result) = rs
  events : es = rounds.flatMap (·.events)
  threaded : Threaded (·.before) (·.after) s rounds s'
  fans : ∀ x ∈ rounds, x.FansOut ls

/-! ## One event -/

theorem runs_tellAll {r : Except PublicError Unit}
    (h : ((tellAll ctx e ls).run s).Runs es (r, s')) :
    ∃ calls, es = calls.flatMap (·.events) ∧ Round.FansOut ls ⟨ctx, e, s, calls, r, s'⟩ := by
  induction ls generalizing s es with
  | nil =>
    obtain ⟨rfl, same⟩ := Program.Runs.of_done h
    cases same
    exact ⟨[], rfl, List.prefix_refl [], fun c hc => (List.not_mem_nil hc).elim, rfl,
      .inl ⟨rfl, fun c hc => (List.not_mem_nil hc).elim, rfl⟩⟩
  | cons l ls ih =>
    obtain ⟨es₁, es₂, ⟨r₁, s₁⟩, rfl, first, rest⟩ := Program.Runs.of_bind h
    let call : Call σ I := ⟨l, s, es₁, r₁, s₁⟩
    have called : call.Runs ctx e := first
    cases r₁ with
    | error f =>
      obtain ⟨rfl, same⟩ := Program.Runs.of_done rest
      cases same
      refine ⟨[call], by simp [call], ?_, ?_, ⟨rfl, rfl⟩, .inr ⟨[], call, f, rfl, ?_, rfl, rfl⟩⟩
      · exact List.prefix_append [l] ls
      · intro c hc
        obtain rfl := List.mem_singleton.mp hc
        exact called
      · exact fun c hc => (List.not_mem_nil hc).elim
    | ok =>
      obtain ⟨calls, rfl, order, runs, threaded, outcome⟩ := ih rest
      refine ⟨call :: calls, rfl, ?_, ?_, ⟨rfl, threaded⟩, ?_⟩
      · exact List.prefix_cons_inj l |>.mpr order
      · exact List.forall_mem_cons.mpr ⟨called, runs⟩
      · rcases outcome with ⟨all, fine, result⟩ | ⟨done, c, f, split, fine, failed, result⟩
        · exact .inl ⟨congrArg (l :: ·) all, List.forall_mem_cons.mpr ⟨rfl, fine⟩, result⟩
        · exact .inr ⟨call :: done, c, f, congrArg (call :: ·) split,
            List.forall_mem_cons.mpr ⟨rfl, fine⟩, failed, result⟩

/-! ## Any number of events -/

theorem runs_tellEach {news : List (RequestContext × Event)} {rs : List (Except PublicError Unit)}
    (h : ((tellEach ls news).run s).Runs es (rs, s')) : ∃ rounds, Told ls news s es rs s' rounds := by
  induction news generalizing s es rs with
  | nil =>
    obtain ⟨rfl, same⟩ := Program.Runs.of_done h
    cases same
    exact ⟨[], rfl, rfl, rfl, rfl, fun x hx => (List.not_mem_nil hx).elim⟩
  | cons n news ih =>
    obtain ⟨ctx, e⟩ := n
    rw [tellEach, List.mapM_cons] at h
    obtain ⟨es₁, es₂, ⟨r, s₁⟩, rfl, first, rest⟩ := Program.Runs.of_bind h
    obtain ⟨es₃, es₄, ⟨rs', s₂⟩, rfl, others, last⟩ := Program.Runs.of_bind rest
    obtain ⟨rfl, same⟩ := Program.Runs.of_done last
    cases same
    obtain ⟨calls, rfl, fans⟩ := runs_tellAll first
    obtain ⟨rounds, told, results, rfl, threaded, all⟩ := ih others
    refine ⟨⟨ctx, e, s, calls, r, s₁⟩ :: rounds, ?_, ?_, ?_, ⟨rfl, threaded⟩,
      List.forall_mem_cons.mpr ⟨fans, all⟩⟩
    · rw [List.map_cons, told]
    · rw [List.map_cons, results]
    · rw [List.append_nil]
      rfl

/-- A single event takes a single round. -/
theorem Told.alone {r : Except PublicError Unit} {rounds : List (Round σ I)}
    (h : Told ls [(ctx, e)] s es [r] s' rounds) :
    ∃ x : Round σ I, rounds = [x] ∧ x.context = ctx ∧ x.event = e ∧ x.before = s ∧ x.result = r ∧
      x.events = es ∧ x.FansOut ls := by
  obtain ⟨news, results, events, threaded, fans⟩ := h
  obtain ⟨x, rfl, told⟩ := List.map_eq_singleton_iff.mp news
  cases told
  cases results
  rw [events, List.flatMap_singleton]
  exact ⟨x, rfl, rfl, rfl, threaded.1, rfl, rfl, fans x (List.mem_singleton.mpr rfl)⟩

/-! ## Who is reached -/

/-- The first listener is always called. If it fails that is all; otherwise the others are told in
the same way. -/
theorem Round.FansOut.of_cons {l : Listener (StateT σ (Program I))} {x : Round σ I}
    (h : x.FansOut (l :: ls)) :
    ∃ c cs, x.calls = c :: cs ∧ c.listener = l ∧ c.before = x.before ∧ c.Runs x.context x.event ∧
      ((∃ f, c.result = .error f ∧ cs = []) ∨ c.result = .ok () ∧
        Round.FansOut ls ⟨x.context, x.event, c.after, cs, x.result, x.after⟩) := by
  obtain ⟨ctx, e, s, calls, r, s'⟩ := x
  obtain ⟨order, runs, threaded, outcome⟩ := h
  cases calls with
  | nil =>
    rcases outcome with ⟨all, _⟩ | ⟨done, c, f, split, _⟩
    · cases all
    · simp at split
  | cons c cs =>
    obtain ⟨rfl, later⟩ := List.cons_prefix_cons.mp order
    obtain ⟨first, threaded⟩ := threaded
    obtain ⟨run, runs⟩ := List.forall_mem_cons.mp runs
    refine ⟨c, cs, rfl, rfl, first, run, ?_⟩
    rcases outcome with ⟨all, fine, result⟩ | ⟨done, d, f, split, fine, failed, result⟩
    · obtain ⟨ok, fine⟩ := List.forall_mem_cons.mp fine
      exact .inr ⟨ok, later, runs, threaded, .inl ⟨(List.cons.inj all).2, fine, result⟩⟩
    · cases done with
      | nil =>
        obtain ⟨rfl, rfl⟩ := List.cons.inj split
        exact .inl ⟨f, failed, rfl⟩
      | cons d' done =>
        obtain ⟨rfl, rfl⟩ := List.cons.inj split
        obtain ⟨ok, fine⟩ := List.forall_mem_cons.mp fine
        exact .inr ⟨ok, later, runs, threaded, .inr ⟨done, d, f, rfl, fine, failed, result⟩⟩

/-- Where a list is cut by something that the first of its parts does not have. -/
theorem append_cut {γ : Type} {P : γ → Prop} {xs ys before after : List γ} {j : γ}
    (own : ∀ k ∈ xs, P k) (other : ¬ P j) (parts : xs ++ ys = before ++ j :: after) :
    ∃ rest, before = xs ++ rest ∧ ys = rest ++ j :: after := by
  rcases Program.append_eq_place parts with ⟨rest, early, _⟩ | found
  · exact (other (own _ (by simp [early]))).elim
  · exact found

/-- What the first listener does not ask is asked after it succeeded, while the others are told. -/
theorem Round.FansOut.asked_later {l : Listener (StateT σ (Program I))} {x : Round σ I}
    {P : I.Event → Prop} {j : I.Event} {before after : List I.Event} (h : x.FansOut (l :: ls))
    (own : ∀ js r s, ((l.hear x.context x.event).run x.before).Runs js (r, s) → ∀ k ∈ js, P k)
    (other : ¬ P j) (parts : x.events = before ++ j :: after) :
    ∃ first rest s cs, before = first ++ rest ∧
      ((l.hear x.context x.event).run x.before).Runs first (.ok (), s) ∧
      Round.FansOut ls ⟨x.context, x.event, s, cs, x.result, x.after⟩ ∧
      cs.flatMap (·.events) = rest ++ j :: after := by
  obtain ⟨c, cs, calls, rfl, start, run, next⟩ := h.of_cons
  rw [Call.Runs, start] at run
  rw [events, calls, List.flatMap_cons] at parts
  obtain ⟨rest, rfl, others⟩ := append_cut (own _ _ _ run) other parts
  rcases next with ⟨f, _, rfl⟩ | ⟨ok, later⟩
  · simp at others
  · rw [ok] at run
    exact ⟨c.events, rest, c.after, cs, rfl, run, later, others⟩

/-- A single listener is told in any case. -/
theorem Round.FansOut.again_of_short {x y : Round σ I} (hx : x.FansOut ls) (hy : y.FansOut ls)
    (short : ls.length ≤ 1) : x.calls.map (·.listener) <+: y.calls.map (·.listener) := by
  have all {z : Round σ I} (h : z.FansOut ls) : z.calls.map (·.listener) = ls := by
    rcases h.outcome with ⟨all, _⟩ | ⟨done, c, f, split, _⟩
    · exact all
    · refine h.order.eq_of_length_le ?_
      rw [split, List.length_map, List.length_append, List.length_singleton]
      omega
  have same := (all hx).trans (all hy).symm
  exact same ▸ List.prefix_rfl

/-- If the first listener succeeds again where it succeeded, and the others are reached again where
they were reached, then all are that were. -/
theorem Round.FansOut.again {l : Listener (StateT σ (Program I))} {x y : Round σ I}
    (hx : x.FansOut (l :: ls)) (hy : y.FansOut (l :: ls))
    (succeeds : ∀ js s ks rest r s', ((l.hear x.context x.event).run x.before).Runs js (.ok (), s) →
      ((l.hear y.context y.event).run y.before).Runs ks (r, s') → y.events = ks ++ rest → r = .ok ())
    (others : ∀ s cs s' ds ks, Round.FansOut ls ⟨x.context, x.event, s, cs, x.result, x.after⟩ →
      Round.FansOut ls ⟨y.context, y.event, s', ds, y.result, y.after⟩ →
      y.events = ks ++ ds.flatMap (·.events) →
      cs.map (·.listener) <+: ds.map (·.listener)) :
    x.calls.map (·.listener) <+: y.calls.map (·.listener) := by
  obtain ⟨c, cs, calls, rfl, start, run, next⟩ := hx.of_cons
  obtain ⟨d, ds, calls', same, start', run', next'⟩ := hy.of_cons
  rw [calls, calls', List.map_cons, List.map_cons, same]
  refine List.prefix_cons_inj c.listener |>.mpr ?_
  rcases next with ⟨f, _, rfl⟩ | ⟨ok, later⟩
  · exact List.nil_prefix
  have events : y.events = d.events ++ ds.flatMap (·.events) := by
    rw [Round.events, calls', List.flatMap_cons]
  rw [Call.Runs, start, ok] at run
  rw [Call.Runs, start', same] at run'
  have ok' := succeeds _ _ _ _ _ _ run run' events
  rcases next' with ⟨f, failed, _⟩ | ⟨_, later'⟩
  · rw [failed] at ok'
    cases ok'
  · exact others _ _ _ _ _ later later' events

end Listener

end Tenancy
