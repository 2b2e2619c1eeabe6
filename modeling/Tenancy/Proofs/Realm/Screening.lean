import Tenancy.Proofs.Realm.Naming
import Tenancy.Proofs.Realm.Rollback

/-!
# Tenants are looked at first

A tenant without an id, or under a name that no realm can have, is turned away before anybody is asked
for anything. Any other tenant is taken to the provider at once, and no later step blames an argument:
what the provider says is reported under a text of its own, and what the secret store says as it is.
-/

namespace Tenancy

/-- A failure that blames an argument. -/
def Fault.Blames (f : Fault) : Prop := ∃ field m, f = .invalid field m

namespace Work

open Session Provider

variable {α β : Type} {slot slot' : TokenSlot} {es es' : List Facility.Event} {f : Fault}

/-- If the secret store fails, it is with a failure of its own. -/
structure StoreBound (es : List Facility.Event) : Prop where
  reads : ∀ key f, (⟨.readSecret key, .error f⟩ : Facility.Event) ∈ es → ∃ k m, f = .secretStore k m
  writes : ∀ key value f, (⟨.writeSecret key value, .error f⟩ : Facility.Event) ∈ es →
    ∃ k m, f = .secretStore k m

theorem StoreBound.mono (h : StoreBound es) (sub : es' ⊆ es) : StoreBound es' where
  reads key f he := h.reads key f (sub he)
  writes key value f he := h.writes key value f (sub he)

theorem not_blames_store (h : ∃ k m, f = .secretStore k m) : ¬ f.Blames := by
  obtain ⟨k, m, rfl⟩ := h
  exact nofun

/-! ## Attempts -/

/-- The attempt settles for no failure that blames an argument. -/
def Attempt.Trusts (x : Attempt α) : Prop :=
  ∀ ⦃es f⦄, x.run.Runs es (.error (.settled f)) → ¬ f.Blames

theorem Attempt.Trusts.call (c : Call) (t : Token) : (Attempt.call c t).Trusts := by
  intro es f run
  obtain ⟨a, _, settled⟩ := Attempt.runs_call run
  cases a <;> cases settled

theorem Attempt.Trusts.refuse (plain : ¬ f.Blames) : (throw (.settled f) : Attempt α).Trusts := by
  intro es f' run
  cases (Program.Runs.of_done run).2
  exact plain

theorem Attempt.Trusts.bind {x : Attempt α} {k : α → Attempt β} (first : x.Trusts)
    (rest : ∀ v, (k v).Trusts) : (x >>= k).Trusts := by
  intro es f run
  rcases run.of_exceptBind with ⟨s, failed, settled⟩ | ⟨v, _, _, _, _, second⟩
  · cases settled
    exact first failed
  · exact rest v second

theorem accessed_trusts {context : String} {attempt : Token → Attempt α}
    (h : Accessed Facility.issue context (fun t => (attempt t).run) slot es (.error f) slot')
    (trusts : ∀ t, (attempt t).Trusts) : ¬ f.Blames := by
  have heard {es : List Facility.Event} {t : Token} {a : Except Setback α}
      (tried : (attempt t).run.Runs es a) (failed : .error f = a.mapError (Setback.fault context)) :
      ¬ f.Blames := by
    cases a with
    | ok v => cases failed
    | error s =>
      cases failed
      cases s with
      | raw e => exact nofun
      | settled f => exact trusts t tried
  generalize failed : Except.error f = r at h
  cases h with
  | tokenless => cases failed; exact nofun
  | once _ tried _ => exact heard tried failed
  | unrenewed => cases failed; exact nofun
  | twice _ _ _ retried => exact heard retried failed

/-! ## Work -/

/-- The work blames no argument as long as the store does not. -/
def Trusting (x : Work α) : Prop :=
  ∀ ⦃slot es f slot'⦄, x.Runs slot es (.error f) slot' → StoreBound es → ¬ f.Blames

theorem Trusting.pure (v : α) : Trusting (Pure.pure v : Work α) := by
  intro slot es f slot' run
  cases run.of_pure.2.1

theorem Trusting.refuse (plain : ¬ f.Blames) : Trusting (throw f : Work α) := by
  intro slot es f' slot' run
  cases run.of_throw.2.1
  exact fun _ => plain

theorem Trusting.bind {x : Work α} {k : α → Work β} (first : Trusting x)
    (rest : ∀ v, Trusting (k v)) : Trusting (x >>= k) := by
  intro slot es f slot' run bound
  rcases run.of_bind with ⟨f', failed, same⟩ | ⟨v, es₁, es₂, _, rfl, _, second⟩
  · cases same
    exact first failed bound
  · exact rest v second (bound.mono (List.subset_append_right es₁ es₂))

theorem Trusting.ask (q : Facility.Query) : Trusting (Work.ask q) := by
  intro slot es f slot' run
  obtain ⟨asked, _⟩ := Runs.of_lift run
  obtain ⟨_, failed, _⟩ := asked.of_map
  cases failed

theorem Trusting.readSecret (key : String) :
    Trusting (Session.lift (Facility.ask (.readSecret key))) := by
  intro slot es f slot' run bound
  obtain rfl := (Runs.of_lift run).1.of_query
  exact not_blames_store (bound.reads key f (List.mem_singleton.mpr rfl))

theorem Trusting.writeSecret (key value : String) :
    Trusting (Session.lift (Facility.ask (.writeSecret key value))) := by
  intro slot es f slot' run bound
  obtain rfl := (Runs.of_lift run).1.of_query
  exact not_blames_store (bound.writes key value f (List.mem_singleton.mpr rfl))

theorem Trusting.calls {context : String} {attempt : Token → Attempt α}
    (trusts : ∀ t, (attempt t).Trusts) : Trusting (Work.calls context attempt) :=
  fun _ _ _ _ run _ => accessed_trusts (Runs.of_access run) trusts

theorem Trusting.call (context : String) (c : Call) : Trusting (Work.call context c) :=
  fun _ _ _ _ run _ => accessed_trusts (Runs.of_access run) (.call c)

theorem outcome_trusts {context : String} {receipt : Receipt}
    (h : receipt.outcome context = .error f) : ¬ f.Blames := by
  unfold Receipt.outcome at h
  split at h
  · split at h
    · cases h
    · cases h
      exact nofun
  · cases h
    exact nofun

theorem Trusting.create (c : Creation) : Trusting c.work := by
  intro slot es f slot' run _
  have tried {context : String} {c : Call} {a : Except Fault c.Answer}
      (accessed : Accessed Facility.issue context (fun t => (Attempt.call c t).run) slot es a slot')
      {k : c.Answer → Except Fault String} (judged : ∀ v f, k v = .error f → ¬ f.Blames)
      (failed : .error f = a >>= k) : ¬ f.Blames := by
    cases a with
    | error f' =>
      cases failed
      exact accessed_trusts accessed (.call c)
    | ok v => exact judged v f failed.symm
  cases c with
  | realm r =>
    obtain ⟨a, accessed, failed⟩ := runs_create run
    exact tried (c := .createRealm r) accessed (fun _ _ => outcome_trusts) failed
  | role name r =>
    obtain ⟨a, accessed, failed⟩ := runs_create run
    exact tried (c := .createRole name r) accessed (fun _ _ => outcome_trusts) failed
  | client name r =>
    obtain ⟨a, accessed, failed⟩ := runs_create run
    exact tried (c := .createClient name r) accessed (fun _ _ => outcome_trusts) failed
  | policy name server r =>
    obtain ⟨a, accessed, failed⟩ := runs_create run
    exact tried (c := .createPolicy name server r) accessed (fun _ _ => outcome_trusts) failed

end Work

namespace Realm

open Work Session

variable {α β : Type} (p : Plan) (realm : String)

/-! ## Establishing and revising -/

theorem obtain_trusting (keyStart clientId : String) :
    Trusting (Secret.obtain keyStart realm clientId) := by
  refine .bind (.readSecret _) fun v => ?_
  cases (v : Option String) with
  | some secret => exact .pure secret
  | none => exact .bind (.ask .entropy) fun n => .bind (.writeSecret _ _) fun _ => .pure _

theorem addRole_trusting (name description : String) :
    Trusting (Plan.addRole realm name description) :=
  .bind (.create (.role realm _)) fun _ => .pure _

theorem grantRole_trusting (client clientId role : String) :
    Trusting (Plan.grantRole realm client clientId role) := by
  refine .calls fun t => .bind (.call _ t) fun user => .bind (.call _ t) fun found => ?_
  cases (found : Option Wire.Role) with
  | none => exact .refuse nofun
  | some role => exact .call _ t

theorem addClient_trusting (plan : ClientPlan) : Trusting (p.addClient realm plan) := by
  refine .bind (obtain_trusting realm _ _) fun secret => ?_
  refine .bind (.create (.client realm _)) fun id => ?_
  dsimp only
  cases plan.serviceAccountRole with
  | some role => exact .bind (grantRole_trusting realm _ _ role) fun _ => .pure _
  | none => exact .pure _

theorem findManagement_trusting : Trusting (Plan.findManagement realm) := by
  refine .bind (.call _ _) fun found => ?_
  match (found : List Wire.Client) with
  | [] => exact .refuse nofun
  | [c] => exact .pure c
  | _ :: _ :: _ => exact .refuse nofun

theorem bindPolicy_trusting (server permission policy : String) :
    Trusting (Plan.bindPolicy realm server permission policy) :=
  .calls fun t => .bind (.call _ t) fun _ => .bind (.call _ t) fun _ => .call _ t

theorem grantImpersonation_trusting (client : Wire.Client) :
    Trusting (Plan.grantImpersonation realm client) := by
  unfold Plan.grantImpersonation
  cases client.id with
  | none => exact .refuse nofun
  | some clientUuid =>
    refine .bind (findManagement_trusting realm) fun management => ?_
    cases management.id with
    | none => exact .refuse nofun
    | some server =>
      refine .bind (.call _ _) fun permissions => ?_
      dsimp only
      split
      · refine .bind (.create (.policy realm server _)) fun policy => ?_
        exact bindPolicy_trusting realm server _ policy
      · exact .refuse nofun

theorem findMapper_trusting (name : String) : Trusting (Plan.findMapper name) := by
  refine .bind (.call _ _) fun info => ?_
  dsimp only
  split
  · exact .pure _
  · exact .refuse nofun

theorem fill_trusting : Trusting (p.fill realm) := by
  refine .bind (.bind (addRole_trusting realm _ _) fun _ => ?_) fun _ => ?_
  · exact .bind (addRole_trusting realm _ _) fun _ => .pure _
  refine .bind (.bind (.ask .now) fun _ => addClient_trusting p realm _) fun _ => ?_
  refine .bind (.bind (.ask .now) fun _ => addClient_trusting p realm _) fun _ => ?_
  refine .bind (.bind (.ask .now) fun _ => .bind (addClient_trusting p realm _) fun client => ?_)
    fun _ => ?_
  · exact .bind (grantImpersonation_trusting realm client) fun _ => .pure client
  refine .bind (.bind (findMapper_trusting _) fun mapper => ?_) fun _ => .pure _
  exact .bind (.ask .now) fun _ => addClient_trusting p realm _

/-- The failure of guarded work is its own, whatever becomes of the removal. -/
theorem orRemove_trusting {name : String} {work : Work Unit} (h : Trusting work) :
    Trusting (orRemove name work) := by
  intro slot es f slot' run bound
  rcases runs_orRemove run with ⟨failed, _⟩ | ⟨f', es₁, es₂, _, _, rfl, failed, first, _⟩
  · cases failed
  · cases failed
    exact h first (bound.mono (List.subset_append_left es₁ es₂))

/-! ## The first question -/

/-- The work begins with a request for a token or a call to the provider. -/
def Begins (x : Work α) : Prop :=
  ∀ slot, ∃ q next, x.play slot = .ask q next ∧ (q = .issueToken ∨ ∃ t c, q = .call t c)

theorem call_begins (context : String) (c : Provider.Call) : Begins (Work.call context c) := by
  rintro ⟨_ | t⟩
  · exact ⟨.issueToken, _, rfl, .inl rfl⟩
  · exact ⟨.call t c, _, rfl, .inr ⟨t, c, rfl⟩⟩

theorem Begins.bind {x : Work α} (h : Begins x) (k : α → Work β) : Begins (x >>= k) := by
  intro slot
  obtain ⟨q, next, asks, remote⟩ := h slot
  exact ⟨q, _, by rw [play_bind, asks]; rfl, remote⟩

/-! ## Tenants -/

/-- The work looks at the tenant before anything else and then takes it as it is. -/
structure Screens (t : Tenant) (x : Work α) : Prop where
  unidentified : t.id = none → x = throw (.invalid "id" "tenant identifier is required")
  misnamed : t.id ≠ none → t.name.toList ∉ RealmName.pattern.matches' →
    x = throw (.invalid "name" ("'" ++ t.name ++ "' is not a valid realm name"))
  begins : t.id ≠ none → t.name.toList ∈ RealmName.pattern.matches' → Begins x
  trusts : t.id ≠ none → t.name.toList ∈ RealmName.pattern.matches' → Trusting x

variable {t : Tenant}

theorem eligible_unidentified (h : t.id = none) :
    eligible t = .error (.invalid "id" "tenant identifier is required") := by
  rw [eligible, h]

theorem eligible_misnamed (known : t.id ≠ none) (h : t.name.toList ∉ RealmName.pattern.matches') :
    eligible t = .error (.invalid "name" ("'" ++ t.name ++ "' is not a valid realm name")) := by
  obtain ⟨id, known⟩ := Option.ne_none_iff_exists'.mp known
  have unfit : ¬ RealmName.isValid t.name = true := mt RealmName.isValid_iff_matches.mp h
  rw [eligible, known]
  exact if_neg unfit

theorem eligible_named (known : t.id ≠ none) (h : t.name.toList ∈ RealmName.pattern.matches') :
    ∃ id, eligible t = .ok id := by
  obtain ⟨id, known⟩ := Option.ne_none_iff_exists'.mp known
  rw [eligible, known]
  exact ⟨id, if_pos (RealmName.isValid_iff_matches.mpr h)⟩

/-- Whatever comes after the check is the work of tenants that pass it, and of no others. -/
theorem screens_of_check {k : Uuid → Work α} (begins : ∀ id, Begins (k id))
    (trusts : ∀ id, Trusting (k id)) : Screens t (Session.lift (pure (eligible t)) >>= k) where
  unidentified unknown := by
    rw [eligible_unidentified unknown]
    rfl
  misnamed known other := by
    rw [eligible_misnamed known other]
    rfl
  begins known named := by
    obtain ⟨id, fit⟩ := eligible_named known named
    rw [fit]
    exact begins id
  trusts known named := by
    obtain ⟨id, fit⟩ := eligible_named known named
    rw [fit]
    exact trusts id

theorem establish_screens (d : Design) (t : Tenant) : Screens t (d.establish t) := by
  refine screens_of_check (fun id => (call_begins _ _).bind _) fun id => ?_
  refine .bind (.call _ _) fun found => ?_
  cases (found : Option Wire.Realm) with
  | some found => exact .pure found
  | none =>
    refine .bind (.create (.realm _)) fun _ => ?_
    exact .bind (orRemove_trusting (fill_trusting d.plan t.name)) fun _ => .pure _

theorem revise_screens (d : Design) (t : Tenant) : Screens t (d.revise t) :=
  screens_of_check (fun _ => call_begins _ _) fun _ => .call _ _

/-- The check of names accepts what the pattern matches, and so nothing but 1 to 63 characters in ASCII.
Work on a tenant is turned away by the check with nothing done, or it begins with a token or a call and
is never turned away later. -/
theorem tenants_screened (d : Design) (t : Tenant) :
    (∀ name, RealmName.isValid name = true ↔ name.toList ∈ RealmName.pattern.matches') ∧
    (∀ name, RealmName.isValid name = true → 1 ≤ name.toList.length ∧ name.toList.length ≤ 63 ∧
      ∀ c ∈ name.toList, c ≠ '\n' ∧ c.toNat < 128) ∧
    Screens t (d.establish t) ∧ Screens t (d.revise t) := by
  refine ⟨fun name => RealmName.isValid_iff_matches, fun name valid => ?_, establish_screens d t,
    revise_screens d t⟩
  obtain ⟨least, most⟩ := RealmName.isValid_length valid
  refine ⟨least, most, fun c hc => ?_⟩
  obtain ⟨_, line, _, _, ascii⟩ := RealmName.isTail_plain ((RealmName.isValid_chars valid).2 c hc)
  exact ⟨line, ascii⟩

end Realm

end Tenancy
