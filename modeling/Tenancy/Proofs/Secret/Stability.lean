import Tenancy.Proofs.Realm.Atomicity
import Tenancy.Proofs.Secret.Isolation

/-!
# Secrets stay

Realms are established one after the other over one secret store, which nothing else changes.
Whatever fails meanwhile, at the provider or in the store, an entry once there stays as it is, and a
client is only ever created with the secret that the store holds at that moment. So all that is ever
sent for one client of one realm is one secret. If the store refuses a read or a write, then the
client is not created, and the store is left alone for the rest of that round.
-/

namespace Tenancy.Secret

open Function (update)
open Provider Work Session
open Realm (ClientPlan Design Plan Tends)

/-! ## The store -/

/-- What the secret store holds. -/
abbrev Store := String → Option String

/-- A value of the kind that is drawn: 32 letters and digits. -/
structure Drawn (value : String) : Prop where
  length : value.toList.length = 32
  plain : ∀ c ∈ value.toList, c.isAlphanum = true

theorem drawn_generate (entropy : Nat) : Drawn (generate entropy) := by
  have digits_length (count n : Nat) : (digits count n).length = count := by
    induction count generalizing n with
    | zero => rfl
    | succ count ih => rw [digits, List.length_cons, ih]
  have plain_digit : ∀ n < 62, (digit n).isAlphanum = true := by decide
  have plain_digits (count n : Nat) : ∀ c ∈ digits count n, c.isAlphanum = true := by
    induction count generalizing n with
    | zero => exact fun c hc => (List.not_mem_nil hc).elim
    | succ count ih =>
      intro c hc
      rcases List.mem_cons.mp hc with rfl | hc
      · exact plain_digit _ (Nat.mod_lt n (by decide))
      · exact ih _ c hc
  constructor
  · rw [generate, String.toList_ofList, digits_length, length]
  · rw [generate, String.toList_ofList]
    exact plain_digits length entropy

namespace Store

/-- The store after an event. Only a write that succeeds changes it. -/
def next (σ : Store) : Facility.Event → Store
  | ⟨.writeSecret key value, .ok _⟩ => update σ key (some value)
  | _ => σ

/-- The store after some events. -/
def after (σ : Store) (es : List Facility.Event) : Store := es.foldl next σ

/-- What a read finds, if it succeeds, is what the store holds. -/
def Tells (σ : Store) : Facility.Event → Prop
  | ⟨.readSecret key, .ok found⟩ => found = σ key
  | _ => True

/-- It was this store that answered the reads, each as it was then. -/
def Answers : Store → List Facility.Event → Prop
  | _, [] => True
  | σ, e :: es => σ.Tells e ∧ Answers (σ.next e) es

/-- Entries stay as they are, and new ones are drawn. -/
def Grows (σ σ' : Store) : Prop :=
  ∀ key, σ' key = σ key ∨ σ key = none ∧ ∃ value, σ' key = some value ∧ Drawn value

variable {σ σ' σ'' : Store} {es es' : List Facility.Event} {e : Facility.Event} {k value : String}

theorem after_append : σ.after (es ++ es') = (σ.after es).after es' := List.foldl_append

theorem after_cons : σ.after (e :: es) = (σ.next e).after es := rfl

theorem after_snoc : σ.after (es ++ [e]) = (σ.after es).next e := after_append

theorem answers_append : σ.Answers (es ++ es') ↔ σ.Answers es ∧ (σ.after es).Answers es' := by
  induction es generalizing σ with
  | nil => simp [Answers, after]
  | cons e es ih =>
    rw [List.cons_append, Answers, Answers, ih, and_assoc]
    rfl

theorem Answers.last (h : σ.Answers (es ++ [e])) : (σ.after es).Tells e :=
  (answers_append.mp h).2.1

theorem next_remote (h : Remote e) : σ.next e = σ := by
  obtain ⟨q, a⟩ := e
  rcases h with rfl | ⟨t, c, rfl⟩ <;> rfl

theorem next_quiet (h : Quiet e) : σ.next e = σ := by
  cases h <;> rfl

theorem after_still (still : ∀ e ∈ es, ∀ σ : Store, σ.next e = σ) : σ.after es = σ := by
  induction es with
  | nil => rfl
  | cons e es ih =>
    have rest := ih fun e he => still e (List.mem_cons_of_mem _ he)
    rw [after, List.foldl_cons, still e List.mem_cons_self]
    exact rest

theorem after_remote (remote : ∀ e ∈ es, Remote e) : σ.after es = σ :=
  after_still fun e he _ => next_remote (remote e he)

theorem after_quiet (quiet : ∀ e ∈ es, Quiet e) : σ.after es = σ :=
  after_still fun e he _ => next_quiet (quiet e he)

theorem Grows.refl (σ : Store) : σ.Grows σ := fun _ => .inl rfl

theorem Grows.trans (h : σ.Grows σ') (h' : σ'.Grows σ'') : σ.Grows σ'' := by
  intro key
  rcases h' key with same | ⟨absent, new⟩
  · rw [same]
    exact h key
  · rcases h key with same | ⟨_, value, there, _⟩
    · exact .inr ⟨same ▸ absent, new⟩
    · rw [absent] at there
      cases there

theorem Grows.keeps (h : σ.Grows σ') (there : σ k = some value) : σ' k = some value := by
  rcases h k with same | ⟨absent, _⟩
  · rw [same, there]
  · rw [there] at absent
    cases absent

theorem Grows.origin (h : σ.Grows σ') (there : σ' k = some value) :
    σ k = some value ∨ σ k = none ∧ Drawn value := by
  rcases h k with same | ⟨absent, value', there', drawn⟩
  · exact .inl (same ▸ there)
  · rw [there] at there'
    cases there'
    exact .inr ⟨absent, drawn⟩

theorem grows_write (absent : σ k = none) (drawn : Drawn value) :
    σ.Grows (update σ k (some value)) := by
  intro key
  by_cases same : key = k
  · subst same
    exact .inr ⟨absent, value, Function.update_self .., drawn⟩
  · exact .inl (Function.update_of_ne same ..)

end Store

/-! ## What establishing a realm asks -/

/-- The store refused to read or to write the entry. -/
inductive Refuses (k : String) : Facility.Event → Prop
  | read (f : Fault) : Refuses k ⟨.readSecret k, .error f⟩
  | write (value : String) (f : Fault) : Refuses k ⟨.writeSecret k value, .error f⟩

/-- The provider was asked to create the client of the plan. Clients that the settings give the same
id are told apart by what they are there for. -/
def Requested (es : List Facility.Event) (realm : String) (plan : ClientPlan) : Prop :=
  ∃ token client a, (⟨.call token (.createClient realm client), a⟩ : Facility.Event) ∈ es ∧
    client.clientId = plan.clientId ∧ client.description = some plan.description

/-- The store refused nothing. -/
def Unrefused (es : List Facility.Event) : Prop := ∀ e ∈ es, ∀ k, ¬ Refuses k e

/-- What may come after some events in the same round, given what the store holds: secrets are drawn
only where there are none, and sent only from the store; and once the store has refused anything,
there is no more of this. -/
inductive Careful (p : Plan) (realm : String) (past : List Facility.Event) (held : Store) :
    Facility.Event → Prop
  | quiet {e : Facility.Event} (h : Quiet e) : Careful p realm past held e
  | read {plan : ClientPlan} {a : Except Fault (Option String)}
      (planned : PlanOf p.clients realm plan) (fine : Unrefused past)
      (new : ¬ Requested past realm plan) :
      Careful p realm past held ⟨.readSecret (key p.keyStart realm plan.clientId), a⟩
  | write {plan : ClientPlan} {value : String} {a : Except Fault Unit}
      (planned : PlanOf p.clients realm plan) (fine : Unrefused past)
      (new : ¬ Requested past realm plan)
      (absent : held (key p.keyStart realm plan.clientId) = none) (drawn : Drawn value) :
      Careful p realm past held ⟨.writeSecret (key p.keyStart realm plan.clientId) value, a⟩
  | client {plan : ClientPlan} {secret : String} {token : Token} {a : Except ProviderError Receipt}
      (planned : PlanOf p.clients realm plan) (fine : Unrefused past)
      (stored : held (key p.keyStart realm plan.clientId) = some secret) :
      Careful p realm past held ⟨.call token (.createClient realm (plan.client secret)), a⟩

/-- The event is careful if it is this store that has answered what came before. -/
def Cares (p : Plan) (realm : String) (σ : Store) (past : List Facility.Event)
    (e : Facility.Event) : Prop :=
  σ.Answers past → Careful p realm past (σ.after past) e

/-- The store refused nothing, and only clients with one of the purposes were created. -/
structure Tidy (es : List Facility.Event) (purposes : List String) : Prop where
  fine : Unrefused es
  known : ∀ realm plan, Requested es realm plan → plan.description ∈ purposes

variable {p : Plan} {realm : String} {σ held : Store} {past past' es es' : List Facility.Event}
  {e : Facility.Event} {plan : ClientPlan} {purposes : List String} {α : Type} {x : Work α}

theorem Unrefused.append (h : Unrefused es) (h' : Unrefused es') : Unrefused (es ++ es') :=
  fun e he => (List.mem_append.mp he).elim (h e) (h' e)

theorem unrefused_of_remote (remote : ∀ e ∈ es, Remote e) : Unrefused es := by
  intro e he k refuses
  cases refuses <;> rcases remote _ he with hq | ⟨_, _, hq⟩ <;> cases hq

theorem unrefused_of_quiet (quiet : ∀ e ∈ es, Quiet e) : Unrefused es := by
  intro e he k refuses
  cases refuses <;> cases quiet _ he

theorem unrequested_of_quiet (quiet : ∀ e ∈ es, Quiet e) : ¬ Requested es realm plan := by
  rintro ⟨token, client, a, he, _⟩
  cases quiet _ he with
  | call spares => exact spares _ _ rfl

theorem requested_append :
    Requested (es ++ es') realm plan ↔ Requested es realm plan ∨ Requested es' realm plan := by
  constructor
  · rintro ⟨token, client, a, he, same⟩
    rcases List.mem_append.mp he with he | he
    · exact .inl ⟨token, client, a, he, same⟩
    · exact .inr ⟨token, client, a, he, same⟩
  · rintro (⟨token, client, a, he, same⟩ | ⟨token, client, a, he, same⟩)
    · exact ⟨token, client, a, List.mem_append_left _ he, same⟩
    · exact ⟨token, client, a, List.mem_append_right _ he, same⟩

theorem Tidy.unrequested (h : Tidy past purposes) (new : plan.description ∉ purposes) :
    ¬ Requested past realm plan :=
  fun requested => new (h.known realm plan requested)

theorem Tidy.append {purposes' : List String} (h : Tidy past purposes) (fine : Unrefused es)
    (more : purposes ⊆ purposes')
    (known : ∀ realm plan, Requested es realm plan → plan.description ∈ purposes') :
    Tidy (past ++ es) purposes' := by
  refine ⟨h.fine.append fine, fun realm plan requested => ?_⟩
  rcases requested_append.mp requested with before | after
  · exact more (h.known realm plan before)
  · exact known realm plan after

theorem Tidy.snoc (h : Tidy past purposes) (fine : ∀ k, ¬ Refuses k e)
    (clientless : ∀ token realm client, e.query ≠ .call token (.createClient realm client)) :
    Tidy (past ++ [e]) purposes := by
  refine h.append ?_ (List.Subset.refl _) ?_
  · intro e' he
    rw [List.mem_singleton.mp he]
    exact fine
  · rintro realm plan ⟨token, client, a, he, _⟩
    exact (clientless token realm client (List.mem_singleton.mp he ▸ rfl)).elim

/-! ## The parts of establishing -/

/-- Work that leaves client secrets alone in every run. -/
def Hushed (x : Work α) : Prop :=
  ∀ ⦃slot es r slot'⦄, x.Runs slot es r slot' → ∀ e ∈ es, Quiet e

theorem Hushed.heeds (hushed : Hushed x) (tidy : Tidy past purposes) :
    Heeds (Cares p realm σ) past x fun _ past' => Tidy past' purposes := by
  intro slot es r slot' run
  have quiet := hushed run
  refine ⟨.of_forall fun past e he _ => .quiet (quiet e he), fun v _ => ?_⟩
  exact tidy.append (unrefused_of_quiet quiet) (List.Subset.refl _)
    fun realm plan requested => (unrequested_of_quiet quiet requested).elim

theorem step_hushed {s : Step} (quiet : s.Quiet) : Hushed s.work :=
  fun _ _ _ _ run => step_quiet quiet run

theorem tends_hushed {ds : List Duty} (orderly : Orderly (Tends realm) x ds) : Hushed x := by
  intro slot es r slot' run e he
  obtain ⟨log, logged, rfl, tends, _⟩ := orderly.log run
  obtain ⟨s, hs, he⟩ := List.mem_flatMap.mp he
  obtain ⟨slot₁, slot₂, run⟩ := logged.runs hs
  exact step_quiet (tends s hs).quiet run e he

theorem now_hushed : Hushed (Work.ask .now) :=
  step_hushed (s := .now) fun _ _ made => made

/-- What is known once a secret was obtained. -/
theorem obtain_heeds (planned : PlanOf p.clients realm plan) (tidy : Tidy past purposes)
    (new : plan.description ∉ purposes) :
    Heeds (Cares p realm σ) past (obtain p.keyStart realm plan.clientId) fun secret past' =>
      Tidy past' purposes ∧ (σ.Answers past' →
        σ.after past' (key p.keyStart realm plan.clientId) = some secret) := by
  refine (Heeds.read fun a _ => .read planned tidy.fine (tidy.unrequested new)).bind
    fun found past₁ _ same₁ => ?_
  have tidy₁ : Tidy past₁ purposes := by
    rw [same₁]
    exact tidy.snoc (fun k refuses => by cases refuses) fun _ _ _ asked => by cases asked
  cases found with
  | some secret =>
    refine .pure ⟨tidy₁, fun answers => ?_⟩
    rw [same₁] at answers ⊢
    rw [Store.after_snoc]
    exact answers.last.symm
  | none =>
    refine (Heeds.ask fun n _ => .quiet (.entropy n)).bind fun n past₂ _ same₂ => ?_
    have tidy₂ : Tidy past₂ purposes := by
      rw [same₂]
      exact tidy₁.snoc (fun k refuses => by cases refuses) fun _ _ _ asked => by cases asked
    -- Between the read and the write there is only the draw, so the entry is still missing.
    have absent (answers : σ.Answers past₂) :
        σ.after past₂ (key p.keyStart realm plan.clientId) = none := by
      rw [same₂] at answers ⊢
      have before := (Store.answers_append.mp answers).1
      rw [same₁] at before
      rw [Store.after_snoc, same₁, Store.after_snoc]
      exact before.last.symm
    refine (Heeds.write fun a answers => .write planned tidy₂.fine (tidy₂.unrequested new)
      (absent answers) (drawn_generate n)).bind fun _ past₃ _ same₃ => ?_
    refine .pure ⟨?_, fun _ => ?_⟩
    · rw [same₃]
      exact tidy₂.snoc (fun k refuses => by cases refuses) fun _ _ _ asked => by cases asked
    · rw [same₃, Store.after_snoc]
      exact Function.update_self ..

theorem create_heeds {secret : String} (planned : PlanOf p.clients realm plan)
    (tidy : Tidy past purposes) (stored : σ.Answers past →
      σ.after past (key p.keyStart realm plan.clientId) = some secret) :
    Heeds (Cares p realm σ) past (Creation.client realm (plan.client secret)).work
      fun _ past' => Tidy past' (plan.description :: purposes) := by
  have attempt (past' : List Facility.Event) (token : Token) (onward : Onward past past') :
      (Attempt.call (.createClient realm (plan.client secret)) token).Heeds (Cares p realm σ) past'
        fun _ _ => True := by
    obtain ⟨more, rfl, remote⟩ := onward
    refine (Attempt.Heeds.call fun a answers => ?_).mono fun _ _ _ => trivial
    refine .client planned (tidy.fine.append (unrefused_of_remote remote)) ?_
    rw [Store.after_append, Store.after_remote remote]
    exact stored (Store.answers_append.mp answers).1
  intro slot es r slot' run
  refine ⟨(Heeds.create (fun _ a _ => .quiet (.issue a)) attempt run).1, fun id _ => ?_⟩
  -- However often it was tried, no other client was asked for.
  have asks {e : Facility.Event} (he : e ∈ es) := step_asks (s := .create (.client realm _))
    (List.cons_ne_nil _ _) run he
  refine tidy.append (unrefused_of_remote fun e he => ?_) (List.subset_cons_self _ _) ?_
  · rcases asks he with issued | ⟨t, c, _, asked⟩
    · exact .inl issued
    · exact .inr ⟨t, c, asked⟩
  · rintro realm' plan' ⟨token, client, a, he, _, purpose⟩
    rcases asks he with issued | ⟨t, c, rfl, asked⟩
    · cases issued
    · cases asked
      exact List.mem_cons.mpr (.inl (Option.some.inj purpose).symm)

theorem addClient_heeds (planned : PlanOf p.clients realm plan) (tidy : Tidy past purposes)
    (new : plan.description ∉ purposes) :
    Heeds (Cares p realm σ) past (p.addClient realm plan)
      fun _ past' => Tidy past' (plan.description :: purposes) := by
  refine (obtain_heeds planned tidy new).bind fun secret past₁ _ ⟨tidy₁, stored⟩ => ?_
  refine (create_heeds planned tidy₁ stored).bind fun id past₂ _ tidy₂ => ?_
  dsimp only
  cases plan.serviceAccountRole with
  | none => exact .pure tidy₂
  | some role =>
    have granted : Hushed (Plan.grantRole realm id (plan.client secret).clientId role) := by
      refine step_hushed (s := .grantRole realm id _ role) ?_
      rintro _ _ (made | made | ⟨_, _, made⟩) <;> cases made
    exact (granted.heeds tidy₂).bind fun _ _ _ tidy₃ => .pure tidy₃

section Filling

variable (tidy : Tidy past purposes)
include tidy

theorem addModuleClient_heeds
    (new : "Service client used by modules to call each other" ∉ purposes) :
    Heeds (Cares p realm σ) past (p.addModuleClient realm) fun _ past' =>
      Tidy past' ("Service client used by modules to call each other" :: purposes) :=
  (now_hushed.heeds tidy).bind fun now _ _ tidy => addClient_heeds (.modules now) tidy new

theorem addLoginClient_heeds (new : "Client used for user login" ∉ purposes) :
    Heeds (Cares p realm σ) past (p.addLoginClient realm) fun _ past' =>
      Tidy past' ("Client used for user login" :: purposes) :=
  (now_hushed.heeds tidy).bind fun now _ _ tidy => addClient_heeds (.login now) tidy new

theorem addImpersonationClient_heeds
    (new : "Client allowed to impersonate realm users" ∉ purposes) :
    Heeds (Cares p realm σ) past (p.addImpersonationClient realm) fun _ past' =>
      Tidy past' ("Client allowed to impersonate realm users" :: purposes) := by
  refine (now_hushed.heeds tidy).bind fun now past₁ _ tidy₁ => ?_
  refine (addClient_heeds (.impersonation now) tidy₁ new).bind fun client past₂ _ tidy₂ => ?_
  have granted := tends_hushed (Realm.grantImpersonation_orderly realm client)
  exact (granted.heeds tidy₂).bind fun _ _ _ tidy₃ => .pure tidy₃

theorem addPasswordResetClient_heeds (new : "Client issuing password reset tokens" ∉ purposes) :
    Heeds (Cares p realm σ) past (p.addPasswordResetClient realm) fun _ past' =>
      Tidy past' ("Client issuing password reset tokens" :: purposes) := by
  have found := tends_hushed (Realm.findMapper_orderly realm p.clients.passwordResetMapper)
  refine (found.heeds tidy).bind fun mapper past₁ _ tidy₁ => ?_
  refine (now_hushed.heeds tidy₁).bind fun now past₂ _ tidy₂ => ?_
  exact addClient_heeds (.passwordReset mapper now) tidy₂ new

end Filling

theorem fill_heeds (tidy : Tidy past []) :
    Heeds (Cares p realm σ) past (p.fill realm) fun _ _ => True := by
  have roles := tends_hushed (Realm.addRoles_orderly p realm)
  refine (roles.heeds tidy).bind fun _ past₁ _ tidy₁ => ?_
  -- Each client is there for a purpose of its own, so none of them was requested before its turn.
  refine (addModuleClient_heeds tidy₁ (by decide)).bind fun _ past₂ _ tidy₂ => ?_
  refine (addLoginClient_heeds tidy₂ (by decide)).bind fun _ past₃ _ tidy₃ => ?_
  refine (addImpersonationClient_heeds tidy₃ (by decide)).bind fun _ past₄ _ tidy₄ => ?_
  exact (addPasswordResetClient_heeds tidy₄ (by decide)).bind fun _ _ _ _ => .pure trivial

theorem establish_careful {d : Design} {t : Tenant} {slot slot' : TokenSlot}
    {r : Except Fault Wire.Realm} (run : (d.establish t).Runs slot es r slot') :
    Follows (Cares d.plan t.name σ) [] es := by
  have start : Tidy [] [] :=
    ⟨fun e he => (List.not_mem_nil he).elim, fun _ _ ⟨_, _, _, he, _⟩ => (List.not_mem_nil he).elim⟩
  have looks : Hushed (Realm.lookup t.name) :=
    step_hushed (s := Realm.looks t) fun _ _ made => by cases made
  have removes : Hushed (Realm.remove t.name) :=
    step_hushed (s := .call _ (.deleteRealm t.name)) fun _ _ made => by cases made
  have creates (id : Uuid) :
      Hushed (Creation.realm (d.blueprint.realm d.lifetimes id t)).work :=
    step_hushed (s := .create (.realm _)) fun _ _ made => by cases made
  refine Realm.establish_follows (looks.heeds start)
    (fun past id tidy => (creates id).heeds tidy) (fun past tidy => fill_heeds tidy)
    (fun past => ?_) run
  intro slot es r slot' run
  exact ⟨.of_forall fun past e he _ => .quiet (removes run e he), fun _ _ => trivial⟩

/-! ## One event -/

theorem Careful.grows (h : Careful p realm past held e) : held.Grows (held.next e) := by
  cases h with
  | quiet quiet =>
    rw [Store.next_quiet quiet]
    exact .refl held
  | read => exact .refl held
  | @write plan value a planned fine new absent drawn =>
    cases a with
    | ok _ => exact Store.grows_write absent drawn
    | error f => exact .refl held
  | client => exact .refl held

theorem Careful.sent {token : Token} {name : String} {client : Wire.Client}
    {a : Except ProviderError Receipt}
    (h : Careful p realm past held ⟨.call token (.createClient name client), a⟩) :
    ∃ secret, client.secret = some secret ∧
      held (key p.keyStart name client.clientId) = some secret := by
  cases h with
  | quiet quiet =>
    cases quiet with
    | call spares => exact (spares name client rfl).elim
  | client planned fine stored => exact ⟨_, rfl, stored⟩

theorem Careful.refused {k : String} (h : Careful p realm past held e) (refuses : Refuses k e) :
    ∃ plan, PlanOf p.clients realm plan ∧ k = key p.keyStart realm plan.clientId ∧
      ¬ Requested past realm plan := by
  cases h with
  | quiet quiet => cases refuses <;> cases quiet
  | read planned fine new => cases refuses; exact ⟨_, planned, rfl, new⟩
  | write planned fine new => cases refuses; exact ⟨_, planned, rfl, new⟩
  | client => cases refuses

theorem Careful.quiet_of_refused {k : String} {e' : Facility.Event}
    (h : Careful p realm past held e) (he : e' ∈ past) (refuses : Refuses k e') : Quiet e := by
  cases h with
  | quiet quiet => exact quiet
  | read _ fine => exact (fine _ he _ refuses).elim
  | write _ fine => exact (fine _ he _ refuses).elim
  | client _ fine => exact (fine _ he _ refuses).elim

theorem Refuses.next_eq {k : String} (h : Refuses k e) : held.next e = held := by
  cases h <;> rfl

/-! ## Round after round -/

/-- A realm that was asked for, and all that was asked meanwhile. Which token was kept at the start
is left open. -/
structure Round (d : Design) where
  tenant : Tenant
  events : List Facility.Event
  ran : ∃ slot r slot', (d.establish tenant).Runs slot events r slot'

variable {d : Design}

/-- All that was asked in the rounds. -/
def trace (rounds : List (Round d)) : List Facility.Event := rounds.flatMap Round.events

theorem trace_split {rounds : List (Round d)} {before after : List Facility.Event}
    (h : trace rounds = before ++ e :: after) : ∃ earlier round later past rest,
      rounds = earlier ++ round :: later ∧ round.events = past ++ e :: rest ∧
        before = trace earlier ++ past := by
  induction rounds generalizing before with
  | nil => cases before <;> cases h
  | cons round rounds ih =>
    have h : round.events ++ trace rounds = before ++ e :: after := h
    rcases Program.append_eq_place h with ⟨rest, here, _⟩ | ⟨more, rfl, tail⟩
    · exact ⟨[], round, rounds, before, rest, rfl, here, rfl⟩
    · obtain ⟨earlier, round', later, past, rest, rfl, events, rfl⟩ := ih tail
      exact ⟨round :: earlier, round', later, past, rest, rfl, events,
        (List.append_assoc ..).symm⟩

theorem trace_append (rounds rounds' : List (Round d)) :
    trace (rounds ++ rounds') = trace rounds ++ trace rounds' := List.flatMap_append

section Rounds

variable {rounds : List (Round d)} (answers : σ.Answers (trace rounds))
include answers

/-- Whatever is asked in a round is careful, with the store as it is at that moment. -/
theorem round_careful {earlier later : List (Round d)} {round : Round d}
    {rest : List Facility.Event} (split : rounds = earlier ++ round :: later)
    (events : round.events = past ++ e :: rest) :
    Careful d.plan round.tenant.name past (σ.after (trace earlier ++ past)) e := by
  obtain ⟨slot, r, slot', run⟩ := round.ran
  rw [events] at run
  have here : (σ.after (trace earlier)).Answers past := by
    have whole : trace rounds = trace earlier ++ (past ++ (e :: rest ++ trace later)) := by
      rw [split, trace_append, ← List.append_assoc past, ← events]
      rfl
    rw [whole] at answers
    exact (Store.answers_append.mp (Store.answers_append.mp answers).2).1
  rw [Store.after_append]
  exact (establish_careful run).at here

theorem quiet_after_refusal {earlier later : List (Round d)} {round : Round d}
    {rest : List Facility.Event} {k : String} (split : rounds = earlier ++ round :: later)
    (events : round.events = past ++ e :: rest) (refuses : Refuses k e) : ∀ e' ∈ rest, Quiet e' := by
  intro e' he
  obtain ⟨between, rest', rfl⟩ := List.append_of_mem he
  have place : round.events = (past ++ e :: between) ++ e' :: rest' := by simp [events]
  have seen : e ∈ past ++ e :: between := by simp
  exact (round_careful answers split place).quiet_of_refused seen refuses

theorem event_careful {before after : List Facility.Event}
    (h : trace rounds = before ++ e :: after) :
    ∃ round ∈ rounds, ∃ past, Careful d.plan round.tenant.name past (σ.after before) e := by
  obtain ⟨earlier, round, later, past, rest, split, events, rfl⟩ := trace_split h
  exact ⟨round, by simp [split], past, round_careful answers split events⟩

theorem after_grows {before between after : List Facility.Event}
    (h : trace rounds = before ++ (between ++ after)) :
    (σ.after before).Grows (σ.after (before ++ between)) := by
  induction between generalizing before with
  | nil =>
    rw [List.append_nil]
    exact .refl _
  | cons e between ih =>
    obtain ⟨round, _, past, careful⟩ := event_careful answers h
    have first := careful.grows
    rw [← Store.after_snoc] at first
    have later : trace rounds = (before ++ [e]) ++ (between ++ after) := by
      simpa using h
    have rest := ih later
    rw [List.append_assoc] at rest
    exact first.trans rest

theorem create_sent {before after : List Facility.Event} {token : Token} {name : String}
    {client : Wire.Client} {a : Except ProviderError Receipt}
    (h : trace rounds = before ++ ⟨.call token (.createClient name client), a⟩ :: after) :
    ∃ secret, client.secret = some secret ∧
      σ.after before (key d.plan.keyStart name client.clientId) = some secret ∧
      σ.after (trace rounds) (key d.plan.keyStart name client.clientId) = some secret := by
  obtain ⟨round, _, past, careful⟩ := event_careful answers h
  obtain ⟨secret, carried, stored⟩ := careful.sent
  have whole : trace rounds =
      before ++ (⟨.call token (.createClient name client), a⟩ :: after ++ []) := by
    rw [h, List.append_nil]
  have later := (after_grows answers whole).keeps stored
  rw [List.append_nil] at whole
  rw [← whole] at later
  exact ⟨secret, carried, stored, later⟩

end Rounds

/-- What is stored and what is sent, over all rounds. -/
structure Stable (d : Design) (σ : Store) (rounds : List (Round d)) : Prop where
  kept : ∀ before between after, trace rounds = before ++ (between ++ after) → ∀ k value,
    σ.after before k = some value → σ.after (before ++ between) k = some value
  sent : ∀ before token name client a after,
    trace rounds = before ++ ⟨.call token (.createClient name client), a⟩ :: after →
    ∃ secret, client.secret = some secret ∧
      σ.after before (key d.plan.keyStart name client.clientId) = some secret ∧
      (σ (key d.plan.keyStart name client.clientId) = some secret ∨
        σ (key d.plan.keyStart name client.clientId) = none ∧ Drawn secret)
  agreed : ∀ token name client a token' client' a',
    ⟨.call token (.createClient name client), a⟩ ∈ trace rounds →
    ⟨.call token' (.createClient name client'), a'⟩ ∈ trace rounds →
    client.clientId = client'.clientId → client.secret = client'.secret
  refused : ∀ earlier round later past e rest k, rounds = earlier ++ round :: later →
    round.events = past ++ e :: rest → Refuses k e →
    (∃ plan, PlanOf d.plan.clients round.tenant.name plan ∧
      k = key d.plan.keyStart round.tenant.name plan.clientId ∧
      ¬ Requested round.events round.tenant.name plan) ∧
    (∀ e' ∈ rest, Quiet e') ∧
    σ.after (trace earlier ++ round.events) = σ.after (trace earlier ++ past)

/-- However many realms are established over one store, and whatever fails, at the provider or in the
store: entries stay as they are; what is sent is what is stored, preset or drawn; it is the same for
all that is sent for one client of one realm; and a client whose secret the store refuses to read or
to write is not created in that round, in which the store stays as it is from then on. -/
theorem secrets_stable (d : Design) (σ : Store) (rounds : List (Round d))
    (answers : σ.Answers (trace rounds)) : Stable d σ rounds where
  kept before between after h k value stored := (after_grows answers h).keeps stored
  sent before token name client a after h := by
    obtain ⟨secret, carried, stored, _⟩ := create_sent answers h
    have whole : trace rounds = [] ++ (before ++ _) := h
    have grown : σ.Grows (σ.after before) := after_grows answers whole
    exact ⟨secret, carried, stored, grown.origin stored⟩
  agreed token name client a token' client' a' he he' same := by
    obtain ⟨before, after, split⟩ := List.append_of_mem he
    obtain ⟨before', after', split'⟩ := List.append_of_mem he'
    obtain ⟨secret, carried, _, last⟩ := create_sent answers split
    obtain ⟨secret', carried', _, last'⟩ := create_sent answers split'
    rw [same, last'] at last
    rw [carried, carried', last]
  refused earlier round later past e rest k split events refuses := by
    obtain ⟨plan, planned, named, new⟩ := (round_careful answers split events).refused refuses
    have quiet := quiet_after_refusal answers split events refuses
    refine ⟨⟨plan, planned, named, ?_⟩, quiet, ?_⟩
    · rw [events, requested_append]
      rintro (before | ⟨token, client, a, he, same⟩)
      · exact new before
      · rcases List.mem_cons.mp he with rfl | he
        · cases refuses
        · exact unrequested_of_quiet quiet ⟨token, client, a, he, same⟩
    · rw [events, ← List.append_assoc, Store.after_append, Store.after_cons, refuses.next_eq,
        Store.after_quiet quiet]

/-! ## A secret that is drawn once -/

/-- The client by which modules call each other, with the secret that is drawn for it. -/
def drawnClient : Wire.Client :=
  (ClientPlan.forModules Realm.usual.plan.clients 0).client (generate 7)

def drawnKey : String := "tenant-realm_acme_sidecar-module-access-client"

/-- A realm is begun, up to the moment when its first client is to be created. -/
def begun : List Facility.Event := Realm.furnishingEvents.take 5

/-- The secret is drawn and stored, and its client is refused, also with a new token. -/
def drawing : List Facility.Event :=
  begun ++
  [⟨.readSecret drawnKey, .ok none⟩, ⟨.entropy, (7 : Nat)⟩,
   ⟨.writeSecret drawnKey (generate 7), .ok ()⟩,
   ⟨.call "t" (.createClient "acme" drawnClient), .error .unauthorized⟩, ⟨.issueToken, .ok "u"⟩,
   ⟨.call "u" (.createClient "acme" drawnClient), .error (.status ⟨503⟩ "")⟩,
   ⟨.call "u" (.deleteRealm "acme"), .ok true⟩]

/-- The store does not answer. -/
def waiting : List Facility.Event :=
  begun ++
  [⟨.readSecret drawnKey, .error (.secretStore drawnKey "busy")⟩,
   ⟨.call "t" (.deleteRealm "acme"), .ok true⟩]

/-- The secret is found again. -/
def finding : List Facility.Event :=
  begun ++
  [⟨.readSecret drawnKey, .ok (some (generate 7))⟩,
   ⟨.call "t" (.createClient "acme" drawnClient), .error (.status ⟨503⟩ "")⟩,
   ⟨.call "t" (.deleteRealm "acme"), .ok true⟩]

theorem drawing_ran :
    ∃ slot r slot', (Realm.usual.establish Realm.acme).Runs slot drawing r slot' :=
  ⟨⟨some "t"⟩, _, _,
    .ask (.ask (.ask (.ask (.ask (.ask (.ask (.ask (.ask (.ask (.ask (.ask (.done _))))))))))))⟩

theorem waiting_ran :
    ∃ slot r slot', (Realm.usual.establish Realm.acme).Runs slot waiting r slot' :=
  ⟨⟨some "t"⟩, _, _, .ask (.ask (.ask (.ask (.ask (.ask (.ask (.done _)))))))⟩

theorem finding_ran :
    ∃ slot r slot', (Realm.usual.establish Realm.acme).Runs slot finding r slot' :=
  ⟨⟨some "t"⟩, _, _, .ask (.ask (.ask (.ask (.ask (.ask (.ask (.ask (.done _))))))))⟩

/-- A store that holds nothing. -/
def Store.blank : Store := fun _ => none

def drawnRounds : List (Round Realm.usual) :=
  [⟨Realm.acme, drawing, drawing_ran⟩, ⟨Realm.acme, waiting, waiting_ran⟩,
   ⟨Realm.acme, finding, finding_ran⟩]

theorem drawn_stable : Store.blank.Answers (trace drawnRounds) ∧
    Stable Realm.usual Store.blank drawnRounds := by
  have answers : Store.blank.Answers (trace drawnRounds) := by
    refine ⟨trivial, trivial, trivial, trivial, trivial, rfl, trivial, trivial, trivial, trivial,
      trivial, trivial, ?_⟩
    refine ⟨trivial, trivial, trivial, trivial, trivial, trivial, trivial, ?_⟩
    exact ⟨trivial, trivial, trivial, trivial, trivial, rfl, trivial, trivial, trivial⟩
  exact ⟨answers, secrets_stable _ _ _ answers⟩

end Tenancy.Secret
