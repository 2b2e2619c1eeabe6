import Tenancy.Proofs.Creation.Location
import Tenancy.Proofs.Work.Order

/-!
# What work makes of its past

Much of what work asks depends on what it was told before: ids are passed on, and things are named
that have been made. A rule for events says which ones may follow which past. Work heeds the rule if
each of its events may follow all that came before it, the past of the work itself included; then
also something is known of the past with which it succeeds. Attempts that are made again go by the
longer past, in which the first attempt stands.
-/

namespace Tenancy

open Facility Session Provider

namespace Work

variable {α β : Type} {Ok : List Facility.Event → Facility.Event → Prop}
  {past past' es es' : List Facility.Event} {slot slot' : TokenSlot}

/-! ## Events and their past -/

/-- Each of the events may follow the past and the events before it. -/
inductive Follows (Ok : List Facility.Event → Facility.Event → Prop) :
    List Facility.Event → List Facility.Event → Prop
  | nil (past : List Facility.Event) : Follows Ok past []
  | cons {past : List Facility.Event} {e : Facility.Event} {es : List Facility.Event}
      (ok : Ok past e) (rest : Follows Ok (past ++ [e]) es) : Follows Ok past (e :: es)

theorem follows_append :
    Follows Ok past (es ++ es') ↔ Follows Ok past es ∧ Follows Ok (past ++ es) es' := by
  induction es generalizing past with
  | nil => simp [Follows.nil]
  | cons e es ih =>
    constructor
    · intro h
      cases h with
      | cons ok rest =>
        obtain ⟨front, back⟩ := ih.mp rest
        exact ⟨.cons ok front, by simpa using back⟩
    · rintro ⟨front, back⟩
      cases front with
      | cons ok rest => exact .cons ok (ih.mpr ⟨rest, by simpa using back⟩)

/-- An event may follow all that came before it. -/
theorem Follows.at {e : Facility.Event} (h : Follows Ok past (es ++ e :: es')) :
    Ok (past ++ es) e := by
  cases (follows_append.mp h).2 with
  | cons ok _ => exact ok

theorem Follows.of_forall (ok : ∀ past, ∀ e ∈ es, Ok past e) : Follows Ok past es := by
  induction es generalizing past with
  | nil => exact .nil past
  | cons e es ih =>
    refine .cons (ok past e List.mem_cons_self) (ih ?_)
    exact fun past e he => ok past e (List.mem_cons_of_mem _ he)

/-! ## Events at the provider -/

/-- An event at the provider: a call, or the issue of a token. -/
def Remote (e : Facility.Event) : Prop := e.query = .issueToken ∨ ∃ t c, e.query = .call t c

theorem issue_remote {r : Except ProviderError Token} (h : issue.Runs es r) : ∀ e ∈ es, Remote e := by
  rw [issue_runs h]
  intro e he
  obtain rfl := List.mem_singleton.mp he
  exact .inl rfl

theorem obtained_remote {t : Token} (h : Obtained issue slot es t) : ∀ e ∈ es, Remote e := by
  cases h with
  | kept => exact fun e he => (List.not_mem_nil he).elim
  | issued run => exact issue_remote run

theorem remote_append (h : ∀ e ∈ es, Remote e) (h' : ∀ e ∈ es', Remote e) :
    ∀ e ∈ es ++ es', Remote e :=
  fun e he => (List.mem_append.mp he).elim (h e) (h' e)

/-! ## Attempts -/

/-- The attempt is made of calls that heed the rule, and succeeds with a past of which something is
known. -/
def Attempt.Heeds (Ok : List Facility.Event → Facility.Event → Prop) (past : List Facility.Event)
    (x : Attempt α) (known : α → List Facility.Event → Prop) : Prop :=
  ∀ ⦃es r⦄, x.run.Runs es r → Follows Ok past es ∧ (∀ e ∈ es, Remote e) ∧
    ∀ v, r = .ok v → known v (past ++ es)

variable {t : Token} {known : α → List Facility.Event → Prop}

theorem Attempt.Heeds.call {c : Call} (ok : ∀ a, Ok past ⟨.call t c, a⟩) :
    (Attempt.call c t).Heeds Ok past fun v past' => past' = past ++ [⟨.call t c, .ok v⟩] := by
  intro es r run
  obtain ⟨a, rfl, rfl⟩ := Attempt.runs_call run
  refine ⟨.cons (ok a) (.nil _), ?_, fun v hv => ?_⟩
  · intro e he
    obtain rfl := List.mem_singleton.mp he
    exact .inr ⟨t, c, rfl⟩
  · cases a with
    | ok u => cases hv; rfl
    | error e => cases hv

theorem Attempt.Heeds.refuse (s : Setback) (known : α → List Facility.Event → Prop) :
    (throw s : Attempt α).Heeds Ok past known := by
  intro es r run
  obtain ⟨rfl, rfl⟩ := run.of_done
  exact ⟨.nil past, fun e he => (List.not_mem_nil he).elim, fun v hv => by cases hv⟩

theorem Attempt.Heeds.mono {x : Attempt α} {known' : α → List Facility.Event → Prop}
    (h : x.Heeds Ok past known) (implies : ∀ v past', known v past' → known' v past') :
    x.Heeds Ok past known' := by
  intro es r run
  obtain ⟨follows, remote, learned⟩ := h run
  exact ⟨follows, remote, fun v hv => implies v _ (learned v hv)⟩

theorem Attempt.Heeds.bind {x : Attempt α} {f : α → Attempt β}
    {known' : β → List Facility.Event → Prop} (first : x.Heeds Ok past known)
    (rest : ∀ v past', past <+: past' → known v past' → (f v).Heeds Ok past' known') :
    (x >>= f).Heeds Ok past known' := by
  intro es r run
  rcases run.of_exceptBind with ⟨s, failed, rfl⟩ | ⟨v, es₁, es₂, rfl, here, there⟩
  · obtain ⟨follows, remote, _⟩ := first failed
    exact ⟨follows, remote, fun v hv => by cases hv⟩
  · obtain ⟨follows, remote, learned⟩ := first here
    obtain ⟨follows', remote', learned'⟩ :=
      rest v _ (List.prefix_append past es₁) (learned v rfl) there
    rw [List.append_assoc] at learned'
    exact ⟨follows_append.mpr ⟨follows, follows'⟩, remote_append remote remote', learned'⟩

/-! ## Work -/

/-- Every run of the work heeds the rule, and it succeeds with a past of which something is known. -/
def Heeds (Ok : List Facility.Event → Facility.Event → Prop) (past : List Facility.Event)
    (x : Work α) (known : α → List Facility.Event → Prop) : Prop :=
  ∀ ⦃slot es r slot'⦄, x.Runs slot es r slot' → Follows Ok past es ∧
    ∀ v, r = .ok v → known v (past ++ es)

theorem Heeds.pure {v : α} (learned : known v past) : Heeds Ok past (Pure.pure v) known := by
  intro slot es r slot' run
  obtain ⟨rfl, rfl, rfl⟩ := run.of_pure
  refine ⟨.nil past, fun u hu => ?_⟩
  cases hu
  rwa [List.append_nil]

theorem Heeds.throw (f : Fault) (known : α → List Facility.Event → Prop) :
    Heeds Ok past (throw f) known := by
  intro slot es r slot' run
  obtain ⟨rfl, rfl, rfl⟩ := run.of_throw
  exact ⟨.nil past, fun v hv => by cases hv⟩

theorem Heeds.mono {x : Work α} {known' : α → List Facility.Event → Prop}
    (h : Heeds Ok past x known) (implies : ∀ v past', known v past' → known' v past') :
    Heeds Ok past x known' := by
  intro slot es r slot' run
  obtain ⟨follows, learned⟩ := h run
  exact ⟨follows, fun v hv => implies v _ (learned v hv)⟩

theorem Heeds.bind {x : Work α} {f : α → Work β} {known' : β → List Facility.Event → Prop}
    (first : Heeds Ok past x known)
    (rest : ∀ v past', past <+: past' → known v past' → Heeds Ok past' (f v) known') :
    Heeds Ok past (x >>= f) known' := by
  intro slot es r slot' run
  rcases run.of_bind with ⟨e, failed, rfl⟩ | ⟨v, es₁, es₂, slot₁, rfl, here, there⟩
  · exact ⟨(first failed).1, fun v hv => by cases hv⟩
  · obtain ⟨follows, learned⟩ := first here
    obtain ⟨follows', learned'⟩ := rest v _ (List.prefix_append past es₁) (learned v rfl) there
    rw [List.append_assoc] at learned'
    exact ⟨follows_append.mpr ⟨follows, follows'⟩, learned'⟩

/-! ## Questions that are no calls -/

theorem Heeds.read {key : String} (ok : ∀ a, Ok past ⟨.readSecret key, a⟩) :
    Heeds Ok past (Session.lift (Facility.ask (.readSecret key)))
      fun v past' => past' = past ++ [⟨.readSecret key, .ok v⟩] := by
  intro slot es r slot' run
  obtain rfl := (Runs.of_lift run).1.of_query
  exact ⟨.cons (ok r) (.nil _), fun v hv => by rw [hv]⟩

theorem Heeds.write {key value : String} (ok : ∀ a, Ok past ⟨.writeSecret key value, a⟩) :
    Heeds Ok past (Session.lift (Facility.ask (.writeSecret key value)))
      fun _ past' => past' = past ++ [⟨.writeSecret key value, .ok ()⟩] := by
  intro slot es r slot' run
  obtain rfl := (Runs.of_lift run).1.of_query
  exact ⟨.cons (ok r) (.nil _), fun v hv => by rw [hv]⟩

theorem Heeds.ask {q : Facility.Query} (ok : ∀ a, Ok past ⟨q, a⟩) :
    Heeds Ok past (Work.ask q) fun v past' => past' = past ++ [⟨q, v⟩] := by
  intro slot es r slot' run
  obtain ⟨v, rfl, asked⟩ := (Runs.of_lift run).1.of_map
  obtain rfl := asked.of_query
  refine ⟨.cons (ok v) (.nil _), fun u hu => ?_⟩
  cases hu
  rfl

/-! ## Accesses -/

/-- A past, and events at the provider after it. -/
def Onward (past past' : List Facility.Event) : Prop :=
  ∃ more, past' = past ++ more ∧ ∀ e ∈ more, Remote e

theorem Onward.after (h : Onward past past') (remote : ∀ e ∈ es, Remote e) :
    Onward past (past' ++ es) := by
  obtain ⟨more, rfl, before⟩ := h
  exact ⟨more ++ es, List.append_assoc past more es, remote_append before remote⟩

theorem Onward.refl (past : List Facility.Event) : Onward past past :=
  ⟨[], (List.append_nil past).symm, fun _ he => (List.not_mem_nil he).elim⟩

theorem Onward.prefix (h : Onward past past') : past <+: past' := by
  obtain ⟨more, rfl, _⟩ := h
  exact List.prefix_append past more

theorem issue_follows (tokens : ∀ past a, Ok past ⟨.issueToken, a⟩)
    {r : Except ProviderError Token} (h : issue.Runs es r) : Follows Ok past es := by
  rw [issue_runs h]
  exact .cons (tokens past r) (.nil _)

theorem obtained_follows (tokens : ∀ past a, Ok past ⟨.issueToken, a⟩)
    (h : Obtained issue slot es t) : Follows Ok past es := by
  cases h with
  | kept => exact .nil past
  | issued run => exact issue_follows tokens run

/-- An access heeds a rule if its attempts do, however much the provider was asked meanwhile. -/
theorem accessed_heeds {context : String} {attempt : Token → Attempt α} {r : Except Fault α}
    (tokens : ∀ past a, Ok past ⟨.issueToken, a⟩)
    (heeds : ∀ past' t, Onward past past' → (attempt t).Heeds Ok past' known)
    (h : Accessed issue context (fun t => (attempt t).run) slot es r slot') :
    Follows Ok past es ∧ ∀ v, r = .ok v → known v (past ++ es) := by
  have start := Onward.refl past
  cases h with
  | tokenless issued => exact ⟨issue_follows tokens issued, fun v hv => by cases hv⟩
  | once token tried _ =>
    have before := start.after (obtained_remote token)
    obtain ⟨follows, _, learned⟩ := heeds _ _ before tried
    refine ⟨follows_append.mpr ⟨obtained_follows tokens token, follows⟩, fun v hv => ?_⟩
    have last := learned v (mapError_ok hv)
    rwa [List.append_assoc] at last
  | unrenewed token tried renewed =>
    have before := start.after (obtained_remote token)
    obtain ⟨follows, _, _⟩ := heeds _ _ before tried
    have rest := follows_append.mpr ⟨follows, issue_follows tokens renewed⟩
    exact ⟨follows_append.mpr ⟨obtained_follows tokens token, rest⟩, fun v hv => by cases hv⟩
  | twice token tried renewed retried =>
    have before := start.after (obtained_remote token)
    obtain ⟨follows, remote, _⟩ := heeds _ _ before tried
    have between := (before.after remote).after (issue_remote renewed)
    obtain ⟨follows', _, learned⟩ := heeds _ _ between retried
    have rest := follows_append.mpr ⟨issue_follows tokens renewed, follows'⟩
    refine ⟨follows_append.mpr ⟨obtained_follows tokens token,
      follows_append.mpr ⟨follows, rest⟩⟩, fun v hv => ?_⟩
    have last := learned v (mapError_ok hv)
    simpa only [List.append_assoc] using last

section Accesses

variable (tokens : ∀ past a, Ok past ⟨.issueToken, a⟩)
include tokens

theorem Heeds.calls {context : String} {attempt : Token → Attempt α}
    (heeds : ∀ past' t, Onward past past' → (attempt t).Heeds Ok past' known) :
    Heeds Ok past (Work.calls context attempt) known :=
  fun _ _ _ _ run => accessed_heeds tokens heeds (Runs.of_access run)

theorem Heeds.call {context : String} {c : Call}
    (ok : ∀ past' t a, Onward past past' → Ok past' ⟨.call t c, a⟩) :
    Heeds Ok past (Work.call context c) fun v past' => ∃ t, ⟨.call t c, .ok v⟩ ∈ past' := by
  refine Heeds.calls tokens fun past' t onward => ?_
  refine (Attempt.Heeds.call fun a => ok past' t a onward).mono fun v past'' same => ?_
  exact ⟨t, by simp [same]⟩

/-- A creation heeds a rule if its call does; it succeeds with the id on a receipt of success. -/
theorem Heeds.create {ρ : Type} [Resource ρ] {thing : ρ}
    {attempt : Token → Program Facility (Except ProviderError Receipt)}
    {known : Receipt → List Facility.Event → Prop}
    (heeds : ∀ past' t, Onward past past' →
      Attempt.Heeds Ok past' (ExceptT.mk ((·.mapError Setback.raw) <$> attempt t)) known) :
    Heeds Ok past (Work.create thing attempt) fun id past' =>
      ∃ receipt : Receipt, receipt.status.isSuccess = true ∧ receipt.id? = some id ∧
        known receipt past' := by
  intro slot es r slot' run
  obtain ⟨a, accessed, rfl⟩ := runs_create run
  obtain ⟨follows, learned⟩ := accessed_heeds tokens heeds accessed
  refine ⟨follows, fun id hid => ?_⟩
  cases a with
  | error f => cases hid
  | ok receipt =>
    obtain ⟨success, carried⟩ := Receipt.outcome_eq_ok.mp (hid : receipt.outcome _ = .ok id)
    exact ⟨receipt, success, carried, learned receipt rfl⟩

end Accesses

end Work

end Tenancy
