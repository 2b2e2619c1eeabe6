import Tenancy.Proofs.Registry.Server

/-!
# A registry in step with the tenants

What the registry's listener does when it is told something is one of five things. All that is said
here follows from these: a registry that keeps a map keeps it in step with the tenants, over any
number of events, and whatever a server answers, little is sent and no failure is overlooked.
-/

namespace Tenancy

/-- The name of the tenant that something happened to. -/
def Event.name : Event → String
  | .created t | .updated t => t.name
  | .deleted name => name

/-- Tells a listener one thing after the other, and collects what comes of each. -/
def Listener.hearAll (l : Listener (Program Outside)) (news : List (RequestContext × Event)) :
    Program Outside (List (Except PublicError Unit)) :=
  news.mapM fun x => l.hear x.1 x.2

namespace Registry

/-- What an event makes of the entries. -/
def mirror (m : Entries) : Event → Entries
  | .created t => if (m t.name).isSome then m else Function.update m t.name (some (.ofTenant t))
  | .updated t => Function.update m t.name (some (.ofTenant t))
  | .deleted name => Function.update m name none

/-- A status refuses a request. A 404 does not where something is looked for or removed. -/
def Refuses (s : Status) (q : Http.Request) : Prop :=
  s.isSuccess = false ∧ (s = .notFound → q.method ≠ .get ∧ q.method ≠ .delete)

/-- A request came to nothing: there was no answer, or a refusal. -/
inductive Failed (q : Http.Request) : Http.Outcome → Prop
  | lost (cause : Chain) : Failed q (.error cause)
  | refused {reply : Http.Reply} (h : Refuses reply.status q) : Failed q (.ok reply)

/-- What the last request of an event comes to. -/
inductive Ends (q : Http.Request) (o : Http.Outcome) : Except PublicError Unit → Prop
  | well (h : ¬ Failed q o) : Ends q o (.ok ())
  | badly (h : Failed q o) (message : String) : Ends q o (.error (.registry message))

/-- All that can happen when something is heard. -/
inductive Heard (r : Remote) (ctx : RequestContext) :
    Event → List Outside.Event → Except PublicError Unit → Prop
  | lost {e : Event} {t : Tenant} {q : Http.Request} {o : Http.Outcome} {message : String}
      (about : e = .created t ∨ e = .updated t) (look : (Order.look t.name).request r ctx = .ok q)
      (failed : Failed q o) : Heard r ctx e [⟨.exchange q, o⟩] (.error (.registry message))
  | known {t : Tenant} {q : Http.Request} {reply : Http.Reply}
      (look : (Order.look t.name).request r ctx = .ok q) (there : reply.status.isSuccess = true) :
      Heard r ctx (.created t) [⟨.exchange q, .ok reply⟩] (.ok ())
  | added {e : Event} {t : Tenant} {q q' : Http.Request} {reply : Http.Reply} {o : Http.Outcome}
      {v : Except PublicError Unit} (about : e = .created t ∨ e = .updated t)
      (look : (Order.look t.name).request r ctx = .ok q) (missing : reply.status = .notFound)
      (add : (Order.add (.ofTenant t)).request r ctx = .ok q') (ends : Ends q' o v) :
      Heard r ctx e [⟨.exchange q, .ok reply⟩, ⟨.exchange q', o⟩] v
  | replaced {t : Tenant} {q q' : Http.Request} {reply : Http.Reply} {o : Http.Outcome}
      {v : Except PublicError Unit} (look : (Order.look t.name).request r ctx = .ok q)
      (there : reply.status.isSuccess = true)
      (put : (Order.put t.name (.ofTenant t)).request r ctx = .ok q') (ends : Ends q' o v) :
      Heard r ctx (.updated t) [⟨.exchange q, .ok reply⟩, ⟨.exchange q', o⟩] v
  | removed {name : String} {q : Http.Request} {o : Http.Outcome} {v : Except PublicError Unit}
      (drop : (Order.drop name).request r ctx = .ok q) (ends : Ends q o v) :
      Heard r ctx (.deleted name) [⟨.exchange q, o⟩] v

variable {r : Remote} {ctx : RequestContext} {e : Event} {es : List Outside.Event}
  {v : Except PublicError Unit} {q : Http.Request} {o : Http.Outcome} {action : String}

/-! ## Verdicts -/

theorem failed_iff {reply : Http.Reply} : Failed q (.ok reply) ↔ Refuses reply.status q :=
  ⟨fun h => by cases h; assumption, .refused⟩

/-- What a lookup finds. -/
inductive Finds (q : Http.Request) : Http.Outcome → Except Fault Bool → Prop
  | there {reply : Http.Reply} (h : reply.status.isSuccess = true) : Finds q (.ok reply) (.ok true)
  | missing {reply : Http.Reply} (h : reply.status = .notFound) : Finds q (.ok reply) (.ok false)
  | failed {o : Http.Outcome} (h : Failed q o) (message : String) :
      Finds q o (.error (.registry message))

theorem finds_verdict (q : Http.Request) :
    Finds q o (Remote.verdict action Remote.onPresence o) := by
  cases o with
  | error cause => exact .failed (.lost cause) _
  | ok reply =>
    by_cases missing : reply.status = .notFound
    · rw [Remote.verdict_some (v := false) (by simp [Remote.onPresence, missing])]
      exact .missing missing
    cases there : reply.status.isSuccess with
    | true =>
      rw [Remote.verdict_some (v := true)
        (by simp [Remote.onPresence, Remote.onSuccess, missing, there])]
      exact .there there
    | false =>
      rw [Remote.verdict_none (by simp [Remote.onPresence, Remote.onSuccess, missing, there])]
      exact .failed (.refused ⟨there, fun absent => (missing absent).elim⟩) _

/-- A request ends as its judge says, if the judge knows what refuses it. -/
theorem ends_verdict {judge : Status → Option Unit}
    (knows : ∀ s, judge s = none ↔ Refuses s q) :
    Ends q o ((Remote.verdict action judge o).mapError Fault.publish) := by
  cases o with
  | error cause => exact .badly (.lost cause) _
  | ok reply =>
    cases judged : judge reply.status with
    | some _ =>
      rw [Remote.verdict_some judged]
      refine .well fun failed => ?_
      rw [(knows _).mpr (failed_iff.mp failed)] at judged
      cases judged
    | none =>
      rw [Remote.verdict_none judged]
      exact .badly (.refused ((knows _).mp judged)) _

theorem knows_success (other : q.method ≠ .get ∧ q.method ≠ .delete) (s : Status) :
    Remote.onSuccess s = none ↔ Refuses s q := by
  simp [Remote.onSuccess, Refuses, other]

theorem knows_absence (delete : q.method = .delete) (s : Status) :
    Remote.onSuccessOrAbsence s = none ↔ Refuses s q := by
  by_cases missing : s = .notFound <;>
    simp [Remote.onSuccessOrAbsence, Remote.onSuccess, Refuses, missing, delete]

/-! ## What is heard -/

variable {t : Tenant} {name : String} {u : Except Fault Unit}

theorem runs_look {f : Except Fault Bool → Program Outside (Except Fault Unit)}
    (reaches : r.Reaches ctx (some name)) (run : ((r.contains ctx name).bind f).Runs es u) :
    ∃ q o found rest, (Order.look name).request r ctx = .ok q ∧ Finds q o found ∧
      (f found).Runs rest u ∧ es = ⟨.exchange q, o⟩ :: rest := by
  obtain ⟨es₁, rest, found, rfl, looked, after⟩ := Program.Runs.of_bind run
  obtain ⟨q, o, look, rfl, rfl⟩ := Remote.runs_perform reaches looked
  exact ⟨q, o, _, rest, look, finds_verdict q, after, rfl⟩

theorem method_of_body {order : Order} (writes : order.body?.isSome = true) :
    order.method ≠ .get ∧ order.method ≠ .delete := by
  cases order <;> simp_all [Order.method, Order.body?]

theorem runs_write (order : Order) (writes : order.body?.isSome = true)
    (reaches : r.Reaches ctx order.tenant?)
    (run : (Remote.perform action (order.request r ctx) Remote.onSuccess).Runs es u) :
    ∃ q o, order.request r ctx = .ok q ∧ Ends q o (u.mapError Fault.publish) ∧
      es = [⟨.exchange q, o⟩] := by
  obtain ⟨q, o, made, rfl, rfl⟩ := Remote.runs_perform reaches run
  have method : q.method = order.method := (Remote.asks_of_request made).method
  exact ⟨q, o, made, ends_verdict (knows_success (method ▸ method_of_body writes)), rfl⟩

theorem runs_drop (reaches : r.Reaches ctx (some name))
    (run : (r.listener.hear ctx (.deleted name)).Runs es v) :
    ∃ q o, (Order.drop name).request r ctx = .ok q ∧ Ends q o v ∧ es = [⟨.exchange q, o⟩] := by
  obtain ⟨u, rfl, erased⟩ := Program.Runs.of_map run
  obtain ⟨q, o, made, rfl, rfl⟩ := Remote.runs_perform reaches erased
  exact ⟨q, o, made, ends_verdict (knows_absence (Remote.asks_of_request made).method), rfl⟩

theorem heard (reaches : r.Reaches ctx (some e.name)) (all : r.Reaches ctx none)
    (run : (r.listener.hear ctx e).Runs es v) : Heard r ctx e es v := by
  cases e with
  | created t =>
    obtain ⟨u, rfl, ensured⟩ := Program.Runs.of_map run
    obtain ⟨q, o, found, rest, look, finds, after, rfl⟩ := runs_look reaches ensured
    cases finds with
    | there there =>
      obtain ⟨rfl, rfl⟩ := after.of_done
      exact .known look there
    | missing missing =>
      obtain ⟨q', o, add, ends, rfl⟩ := runs_write (.add (.ofTenant t)) rfl all after
      exact .added (.inl rfl) look missing add ends
    | failed failed =>
      obtain ⟨rfl, rfl⟩ := after.of_done
      exact .lost (.inl rfl) look failed
  | updated t =>
    obtain ⟨u, rfl, upserted⟩ := Program.Runs.of_map run
    obtain ⟨q, o, found, rest, look, finds, after, rfl⟩ := runs_look reaches upserted
    cases finds with
    | there there =>
      obtain ⟨q', o, put, ends, rfl⟩ :=
        runs_write (.put t.name (.ofTenant t)) rfl reaches after
      exact .replaced look there put ends
    | missing missing =>
      obtain ⟨q', o, add, ends, rfl⟩ := runs_write (.add (.ofTenant t)) rfl all after
      exact .added (.inr rfl) look missing add ends
    | failed failed =>
      obtain ⟨rfl, rfl⟩ := after.of_done
      exact .lost (.inr rfl) look failed
  | deleted name =>
    obtain ⟨q, o, drop, ends, rfl⟩ := runs_drop reaches run
    exact .removed drop ends

theorem unheard (stuck : ¬ r.Reaches ctx (some e.name)) :
    ∃ m, r.listener.hear ctx e = .done (.error (.registry m)) := by
  cases e with
  | created t =>
    obtain ⟨m, nothing⟩ :
        ∃ m, r.contains ctx t.name = .done (.error (.registry m)) := Remote.perform_unsent stuck _ _
    refine ⟨m, ?_⟩
    show Remote.published (r.ensure ctx t) = _
    rw [Remote.ensure, nothing]
    rfl
  | updated t =>
    obtain ⟨m, nothing⟩ :
        ∃ m, r.contains ctx t.name = .done (.error (.registry m)) := Remote.perform_unsent stuck _ _
    refine ⟨m, ?_⟩
    show Remote.published (r.upsert ctx t) = _
    rw [Remote.upsert, nothing]
    rfl
  | deleted name =>
    obtain ⟨m, nothing⟩ :
        ∃ m, r.erase ctx name = .done (.error (.registry m)) := Remote.perform_unsent stuck _ _
    refine ⟨m, ?_⟩
    show Remote.published (r.erase ctx name) = _
    rw [nothing]
    rfl

/-! ## Whatever the server answers -/

/-- A request by which something may change. -/
def mutates : Outside.Event → Bool
  | ⟨.exchange q, _⟩ => q.method ≠ .get
  | _ => false

/-- Little is sent, nothing on the grounds of a failed lookup, and no failure is overlooked. -/
structure Restrained (es : List Outside.Event) (v : Except PublicError Unit) : Prop where
  once : (es.filter mutates).length ≤ 1
  stops : ∀ before q o rest, es = before ++ ⟨.exchange q, o⟩ :: rest → q.method = .get →
    Failed q o → rest = []
  fails : (∃ m, v = .error (.registry m)) ↔ ∃ q o, ⟨.exchange q, o⟩ ∈ es ∧ Failed q o
  ends : v = .ok () ∨ ∃ m, v = .error (.registry m)

theorem Ends.fails_iff (h : Ends q o v) : (∃ m, v = .error (.registry m)) ↔ Failed q o := by
  cases h with
  | well h => simp [h]
  | badly h m => simp [h]

theorem Ends.ends (h : Ends q o v) : v = .ok () ∨ ∃ m, v = .error (.registry m) := by
  cases h with
  | well h => exact .inl rfl
  | badly h m => exact .inr ⟨m, rfl⟩

theorem Ends.restrained (h : Ends q o v) : Restrained [⟨.exchange q, o⟩] v where
  once := List.length_filter_le _ _
  stops before q' o' rest parts _ _ := by
    cases before with
    | nil => exact (List.cons.inj parts).2.symm
    | cons _ before => simp at parts
  fails := by
    rw [h.fails_iff]
    constructor
    · intro failed
      exact ⟨q, o, List.mem_singleton.mpr rfl, failed⟩
    · rintro ⟨q', o', sent, failed⟩
      cases List.mem_singleton.mp sent
      exact failed
  ends := h.ends

theorem Ends.restrained_after {q' : Http.Request} {o' : Http.Outcome} (h : Ends q' o' v)
    (get : q.method = .get) (found : ¬ Failed q o) :
    Restrained [⟨.exchange q, o⟩, ⟨.exchange q', o'⟩] v where
  once := by
    have reads : mutates ⟨.exchange q, o⟩ = false := by simp [mutates, get]
    rw [List.filter_cons_of_neg (by simp [reads])]
    exact h.restrained.once
  stops before q₁ o₁ rest parts _ failed := by
    cases before with
    | nil =>
      cases (List.cons.inj parts).1
      exact (found failed).elim
    | cons _ before =>
      exact h.restrained.stops before q₁ o₁ rest (List.cons.inj parts).2 ‹_› failed
  fails := by
    rw [h.restrained.fails]
    constructor
    · rintro ⟨q₁, o₁, sent, failed⟩
      exact ⟨q₁, o₁, List.mem_cons_of_mem _ sent, failed⟩
    · rintro ⟨q₁, o₁, sent, failed⟩
      rcases List.mem_cons.mp sent with same | sent
      · cases same
        exact (found failed).elim
      · exact ⟨q₁, o₁, sent, failed⟩
  ends := h.ends

theorem not_failed {reply : Http.Reply} (get : q.method = .get)
    (answered : reply.status.isSuccess = true ∨ reply.status = .notFound) : ¬ Failed q (.ok reply) := by
  rw [failed_iff]
  rintro ⟨failed, other⟩
  rcases answered with there | missing
  · rw [there] at failed
    cases failed
  · exact (other missing).1 get

theorem Heard.restrained (h : Heard r ctx e es v) : Restrained es v := by
  have gets {id : String} {q : Http.Request} (look : (Order.look id).request r ctx = .ok q) :
      q.method = .get := (Remote.asks_of_request look).method
  cases h with
  | lost _ _ failed => exact (Ends.badly failed _).restrained
  | known look there => exact (Ends.well (not_failed (gets look) (.inl there))).restrained
  | added _ look missing _ ends =>
    exact ends.restrained_after (gets look) (not_failed (gets look) (.inr missing))
  | replaced look there _ ends =>
    exact ends.restrained_after (gets look) (not_failed (gets look) (.inl there))
  | removed _ ends => exact ends.restrained

/-! ## In step with a map -/

variable {m : Entries} {order : Order}

/-- An order is answered and carried out as the entries of the moment demand, and all else after
that. -/
theorem Served.given (served : Served r.base m (⟨.exchange q, o⟩ :: es)) (order : Order)
    (named : order.Named) (made : order.request r ctx = .ok q) :
    (∃ reply : Http.Reply, o = .ok reply ∧ order.Owes m reply.status) ∧
      Served r.base (order.effect m) es ∧
      after r.base m (⟨.exchange q, o⟩ :: es) = after r.base (order.effect m) es := by
  have read := ofRequest_request named made
  have heeds : heeded r.base m (.exchange q) = order.effect m := by simp only [heeded, read]
  obtain ⟨answered, rest⟩ := served
  rw [heeds] at rest
  exact ⟨answered order read, rest, by rw [after, List.foldl_cons, heeds, after]⟩

/-- A registry that keeps a map refuses no order but that to replace what is not there. -/
theorem not_refused {s : Status} (made : order.request r ctx = .ok q) (owes : order.Owes m s)
    (known : ∀ id d, order = .put id d → (m id).isSome = true) : ¬ Refuses s q := by
  have method : q.method = order.method := (Remote.asks_of_request made).method
  rintro ⟨failed, other⟩
  cases order with
  | add d =>
    simp only [Order.Owes] at owes
    simp [owes] at failed
  | look id =>
    simp only [Order.Owes] at owes
    split at owes
    · simp [owes] at failed
    · exact (other owes).1 method
  | drop id =>
    simp only [Order.Owes] at owes
    split at owes
    · simp [owes] at failed
    · exact (other owes).2 method
  | put id d =>
    simp only [Order.Owes, known id d rfl, if_true] at owes
    simp [owes] at failed

theorem Ends.ok {reply : Http.Reply} (h : Ends q (.ok reply) v)
    (fine : ¬ Refuses reply.status q) : v = .ok () := by
  cases h with
  | well => rfl
  | badly failed => exact (fine (failed_iff.mp failed)).elim

/-- A lookup shows whether something is there. -/
theorem look_shows {id : String} {s : Status} (owes : (Order.look id).Owes m s) :
    (s.isSuccess = true → (m id).isSome = true) ∧ (s = .notFound → (m id).isSome = false) := by
  simp only [Order.Owes] at owes
  split at owes
  · next there =>
    refine ⟨fun _ => there, ?_⟩
    rintro rfl
    cases owes
  · next missing =>
    refine ⟨fun success => ?_, fun _ => by simpa using missing⟩
    rw [owes] at success
    cases success

theorem Heard.mirrors (h : Heard r ctx e es v) (named : RealmName.isValid e.name = true)
    (served : Served r.base m es) : v = .ok () ∧ after r.base m es = mirror m e := by
  cases h with
  | @lost _ t _ _ _ about look failed =>
    have name : RealmName.isValid t.name = true := by rcases about with rfl | rfl <;> exact named
    -- Such a registry answers every lookup.
    obtain ⟨⟨reply, rfl, owes⟩, _⟩ := served.given (.look t.name) name look
    exact (not_refused look owes nofun (failed_iff.mp failed)).elim
  | @known t _ _ look there =>
    obtain ⟨⟨_, ⟨⟩, owes⟩, _, looked⟩ := served.given (.look t.name) named look
    rw [looked]
    refine ⟨rfl, (if_pos ?_).symm⟩
    exact (look_shows owes).1 there
  | @added _ t _ _ _ _ _ about look missing add ends =>
    have name : RealmName.isValid t.name = true := by rcases about with rfl | rfl <;> exact named
    obtain ⟨⟨_, ⟨⟩, owes⟩, served, looked⟩ := served.given (.look t.name) name look
    obtain ⟨⟨reply, rfl, owes'⟩, _, added⟩ := served.given (.add (.ofTenant t)) rfl add
    rw [looked, added]
    refine ⟨ends.ok (not_refused add owes' nofun), ?_⟩
    have absent := (look_shows owes).2 missing
    rcases about with rfl | rfl
    · exact (if_neg (by simp [absent])).symm
    · rfl
  | @replaced t _ _ _ _ _ look there put ends =>
    obtain ⟨⟨_, ⟨⟩, owes⟩, served, looked⟩ := served.given (.look t.name) named look
    obtain ⟨⟨reply, rfl, owes'⟩, _, replaced⟩ :=
      served.given (.put t.name (.ofTenant t)) named put
    -- What the lookup saw is still there when it is to be replaced.
    have known := (look_shows owes).1 there
    rw [looked, replaced]
    refine ⟨ends.ok (not_refused put owes' ?_), if_pos known⟩
    rintro _ _ ⟨⟩
    exact known
  | @removed name _ _ _ drop ends =>
    obtain ⟨⟨reply, rfl, owes⟩, _, dropped⟩ := served.given (.drop name) named drop
    rw [dropped]
    exact ⟨ends.ok (not_refused drop owes nofun), rfl⟩

/-! ## Any number of events -/

variable {news : List (RequestContext × Event)} {vs : List (Except PublicError Unit)}

/-- How an event ends: well, or badly if its requests cannot be sent. -/
def Concludes (r : Remote) (x : RequestContext × Event) (v : Except PublicError Unit) : Prop :=
  if r.Reaches x.1 (some x.2.name) then v = .ok () else ∃ m, v = .error (.registry m)

/-- The entries after an event that may not get out. -/
def follow (r : Remote) (m : Entries) (x : RequestContext × Event) : Entries :=
  if r.Reaches x.1 (some x.2.name) then mirror m x.2 else m

theorem runs_hear (run : (r.listener.hear ctx e).Runs es v)
    (named : RealmName.isValid e.name = true) (served : Served r.base m es) :
    Concludes r (ctx, e) v ∧ after r.base m es = follow r m (ctx, e) := by
  unfold Concludes follow
  by_cases reaches : r.Reaches ctx (some e.name)
  · simp only [if_pos reaches]
    exact (heard reaches (reaches.all named) run).mirrors named served
  · simp only [if_neg reaches]
    obtain ⟨m', nothing⟩ := unheard reaches
    rw [nothing] at run
    obtain ⟨rfl, rfl⟩ := run.of_done
    exact ⟨⟨m', rfl⟩, rfl⟩

theorem runs_hearAll (run : (r.listener.hearAll news).Runs es vs)
    (named : ∀ x ∈ news, RealmName.isValid x.2.name = true) (served : Served r.base m es) :
    List.Forall₂ (Concludes r) news vs ∧ after r.base m es = news.foldl (follow r) m := by
  induction news generalizing m es vs with
  | nil =>
    obtain ⟨rfl, rfl⟩ := Program.Runs.of_done run
    exact ⟨.nil, rfl⟩
  | cons x news ih =>
    rw [Listener.hearAll, List.mapM_cons] at run
    obtain ⟨es₁, es₂, v, rfl, first, rest⟩ := Program.Runs.of_bind run
    obtain ⟨es₃, es₄, vs', rfl, others, done⟩ := Program.Runs.of_bind rest
    obtain ⟨rfl, rfl⟩ := Program.Runs.of_done done
    rw [List.append_nil] at served ⊢
    obtain ⟨before, behind⟩ := served_append served
    obtain ⟨concludes, follows⟩ := runs_hear first (named x List.mem_cons_self) before
    obtain ⟨all, last⟩ := ih others (fun x hx => named x (List.mem_cons_of_mem _ hx)) behind
    refine ⟨.cons concludes all, ?_⟩
    rw [after_append, last, follows]
    rfl

/-- Whatever a registry kept at first, if it keeps a map it is in step with the tenants after any
number of events. Whatever a server answers, an event sends little and overlooks no failure. An event
whose requests cannot be sent fails, and nobody outside notices. If the name is that of a realm, the
requests about all tenants get out where those about the tenant do. -/
theorem registry_mirrors (r : Remote) :
    (∀ start w, Keeps r.base start w → ∀ news : List (RequestContext × Event),
      (∀ x ∈ news, RealmName.isValid x.2.name = true) →
      let run := (r.listener.hearAll news).against w []
      List.Forall₂ (Concludes r) news run.2 ∧
        after r.base start run.1 = news.foldl (follow r) start) ∧
    (∀ w past ctx e, r.Reaches ctx (some e.name) → r.Reaches ctx none →
      let run := (r.listener.hear ctx e).against w past
      Restrained run.1 run.2) ∧
    (∀ ctx name, RealmName.isValid name = true → r.Reaches ctx (some name) → r.Reaches ctx none) ∧
    ∀ w past ctx e, ¬ r.Reaches ctx (some e.name) →
      ∃ m, (r.listener.hear ctx e).against w past = ([], .error (.registry m)) := by
  refine ⟨fun start w keeps news named => ?_, fun w past ctx e reaches all => ?_,
    fun ctx name named reaches => reaches.all named, fun w past ctx e stuck => ?_⟩
  · exact runs_hearAll (Program.against_runs w _ []) named (keeps.served _ [])
  · exact (heard reaches all (Program.against_runs w _ past)).restrained
  · obtain ⟨m, nothing⟩ := unheard stuck
    exact ⟨m, by rw [nothing]; rfl⟩

/-- A registry on this machine, and a caller with a token. -/
def here : Remote := ⟨Provider.near⟩

def caller : RequestContext := ⟨.nil, some "tok"⟩

/-- Two tenants come and one of them goes. -/
def comings : List (RequestContext × Event) :=
  [(caller, .created ⟨none, "acme", none⟩), (caller, .updated ⟨none, "acme", some "Acme Corp"⟩),
   (caller, .updated ⟨none, "globex", none⟩), (caller, .deleted "acme")]

theorem comings_mirrored :
    let w := keeper here.base fun _ => none
    let run := (here.listener.hearAll comings).against w []
    Keeps here.base (fun _ => none) w ∧ (∀ x ∈ comings, RealmName.isValid x.2.name = true) ∧
      here.Reaches caller (some "acme") ∧ here.Reaches caller (some "globex") ∧
      here.Reaches caller none ∧ run.2 = [.ok (), .ok (), .ok (), .ok ()] ∧
      after here.base (fun _ => none) run.1 "acme" = none ∧
      after here.base (fun _ => none) run.1 "globex" = some ⟨"globex", "globex", none⟩ ∧
      Restrained ((here.listener.hear caller (.deleted "acme")).against w []).1
        ((here.listener.hear caller (.deleted "acme")).against w []).2 := by
  intro w run
  have keeps : Keeps here.base (fun _ => none) w := keeper_keeps _ _
  have named : ∀ x ∈ comings, RealmName.isValid x.2.name = true := by decide
  have acme : here.Reaches caller (some "acme") := by decide
  have globex : here.Reaches caller (some "globex") := by decide
  obtain ⟨mirrors, restrained, reachesAll, _⟩ := registry_mirrors here
  have tenants : here.Reaches caller none := reachesAll caller "acme" rfl acme
  obtain ⟨all, last⟩ := mirrors _ w keeps comings named
  have fine : ∀ {e : Event} {v}, Concludes here (caller, e) v →
      here.Reaches caller (some e.name) → v = .ok () := by
    intro e v h reaches
    unfold Concludes at h
    rwa [if_pos reaches] at h
  refine ⟨keeps, named, acme, globex, tenants, ?_, ?_, ?_, restrained w [] caller _ acme tenants⟩
  · change List.Forall₂ _ comings run.2 at all
    generalize run.2 = vs at all
    unfold comings at all
    rcases all with _ | ⟨h₁, _ | ⟨h₂, _ | ⟨h₃, _ | ⟨h₄, _ | _⟩⟩⟩⟩
    rw [fine h₁ acme, fine h₂ acme, fine h₃ globex, fine h₄ acme]
  · rw [last]
    simp [comings, follow, Event.name, acme, globex, mirror]
  · rw [last]
    simp [comings, follow, Event.name, acme, globex, mirror, Descriptor.ofTenant]

/-- A caller whose token has a line end in it. -/
def stranger : RequestContext := ⟨.nil, some "a\nb"⟩

/-- A registry that can be reached and keeps what it is told is not told everything. -/
theorem not_always_mirrored :
    ¬ ∀ (r : Remote) (start : Entries) (w : Outside.World) (news : List (RequestContext × Event)),
      r.base.isHierarchical = true → r.base.Requestable → Keeps r.base start w →
      (∀ x ∈ news, RealmName.isValid x.2.name = true) →
      ∀ v ∈ ((r.listener.hearAll news).against w []).2, v = .ok () := by
  intro all
  have ends := all here (fun _ => none) (keeper here.base fun _ => none)
    [(stranger, .created ⟨none, "acme", none⟩)] rfl (by decide) (keeper_keeps _ _) (by decide)
  let e : Event := .created ⟨none, "acme", none⟩
  have stuck : ¬ here.Reaches stranger (some e.name) := by decide
  obtain ⟨m, nothing⟩ := unheard stuck
  have failed : here.listener.hearAll [(stranger, .created ⟨none, "acme", none⟩)] =
      .done [.error (.registry m)] := by
    rw [Listener.hearAll, List.mapM_cons, nothing]
    rfl
  rw [failed] at ends
  cases ends _ (List.mem_singleton.mpr rfl)

end Registry

end Tenancy
