import Tenancy.Proofs.Creation.Location
import Tenancy.Proofs.Provider.Exchanges
import Tenancy.Proofs.Provider.Mutations
import Tenancy.Proofs.Realm.Orphan
import Tenancy.Proofs.Realm.References

/-!
# The grant of impersonation

A client may act as any user once its policy is among those of one permission. The permission is read,
its policies are listed and the permission is put back with one policy more, all with one token; if
the token is rejected on the way, all three are done again. So what is put back was read just before,
and nothing that was found is lost. Everything that the update names was told before: the server by
the lookup of the one client that holds such permissions, the permission when they were enabled, and
the policy when it was created. If there is not one such client, nothing is changed.
-/

namespace Tenancy.Realm.Impersonation

open Provider Work Session

variable {realm server permission id uuid : String} {policy : Wire.Policy} {t : Token}
  {slot slot' : TokenSlot} {es : List Facility.Event}

/-! ## Calls -/

/-- The one client among those that were found. -/
def sole : List Wire.Client → Except Fault Wire.Client
  | [] => .error (.absent "client 'realm-management'")
  | [c] => .ok c
  | cs => .error (.ambiguous "client 'realm-management'" cs.length)

theorem sole_ok_iff {found : List Wire.Client} {c : Wire.Client} :
    sole found = .ok c ↔ found = [c] := by
  match found with
  | [] => simp [sole]
  | [c'] => simp [sole]
  | _ :: _ :: _ => simp [sole]

theorem sole_error {found : List Wire.Client} (several : found.length ≠ 1) :
    sole found = .error (if found.length = 0 then .absent "client 'realm-management'"
      else .ambiguous "client 'realm-management'" found.length) := by
  match found with
  | [] => rfl
  | [c'] => exact (several rfl).elim
  | _ :: _ :: _ => rfl

/-- The events of the lookup that a grant begins with, and what it comes to. -/
def Looked (realm : String) (es : List Facility.Event) (a : Except Fault (List Wire.Client)) : Prop :=
  ∃ context slot slot', (Work.call context (.findClients realm "realm-management")).Runs slot es a slot'

theorem findManagement_runs {r : Except Fault Wire.Client}
    (run : (Plan.findManagement realm).Runs slot es r slot') :
    ∃ a, Looked realm es a ∧ r = a >>= sole := by
  rcases Runs.of_bind run with ⟨f, looked, rfl⟩ | ⟨found, es₁, es₂, slot₁, rfl, looked, judged⟩
  · exact ⟨.error f, ⟨_, _, _, looked⟩, rfl⟩
  · have decided : es₂ = [] ∧ r = sole found := by
      match found, judged with
      | [], judged | [_], judged | _ :: _ :: _, judged =>
        obtain ⟨rfl, rfl, _⟩ := judged.of_done
        exact ⟨rfl, rfl⟩
    obtain ⟨rfl, rfl⟩ := decided
    rw [List.append_nil]
    exact ⟨.ok found, ⟨_, _, _, looked⟩, rfl⟩

/-- A permission with the policies that were found for it and one more behind them, unless it is
among them. -/
def appended (found : Wire.Policy) (policies : List Wire.Policy) (id : String) : Wire.Policy :=
  let ids := policies.filterMap (·.id)
  { found with policies := some (ids ++ if id ∈ ids then [] else [id]) }

theorem appended_eq (found : Wire.Policy) (policies : List Wire.Policy) (id : String) :
    { found with policies := some (Plan.withPolicy policies id) } = appended found policies id := by
  unfold Plan.withPolicy appended
  by_cases here : id ∈ policies.filterMap (·.id) <;> simp [here]

/-- How an attempt to bind a policy to a permission goes. -/
inductive Bound (realm server permission id : String) (t : Token) :
    List Facility.Event → Except Setback Unit → Prop
  | unread (err : ProviderError) :
      Bound realm server permission id t
        [⟨.call t (.findPermission realm server permission), .error err⟩] (.error (.raw err))
  | unlisted (found : Wire.Policy) (err : ProviderError) :
      Bound realm server permission id t
        [⟨.call t (.findPermission realm server permission), .ok found⟩,
         ⟨.call t (.findPolicies realm server permission), .error err⟩] (.error (.raw err))
  | asked {found updated : Wire.Policy} {policies : List Wire.Policy}
      (same : updated = appended found policies id) (a : Except ProviderError Unit) :
      Bound realm server permission id t
        [⟨.call t (.findPermission realm server permission), .ok found⟩,
         ⟨.call t (.findPolicies realm server permission), .ok policies⟩,
         ⟨.call t (.updatePermission realm server updated), a⟩]
        (a.mapError .raw)

theorem bindPolicy_runs {r : Except Fault Unit}
    (run : (Plan.bindPolicy realm server permission id).Runs slot es r slot') :
    ∃ context, ∃ attempt : Token → Attempt Unit,
      Accessed Facility.issue context (fun t => (attempt t).run) slot es r slot' ∧
      ∀ t es a, (attempt t).run.Runs es a → Bound realm server permission id t es a := by
  refine ⟨_, _, Runs.of_access run, fun t es a tried => ?_⟩
  rcases tried.of_exceptBind with ⟨s, read, rfl⟩ | ⟨found, es₁, es', rfl, read, rest⟩
  · obtain ⟨a, rfl, ha⟩ := Attempt.runs_call read
    cases a <;> cases ha
    exact .unread _
  obtain ⟨a, rfl, ha⟩ := Attempt.runs_call read
  cases a <;> cases ha
  rcases rest.of_exceptBind with ⟨s, listed, rfl⟩ | ⟨policies, es₂, es₃, rfl, listed, updated⟩
  · obtain ⟨a, rfl, ha⟩ := Attempt.runs_call listed
    cases a <;> cases ha
    exact .unlisted _ _
  obtain ⟨a, rfl, ha⟩ := Attempt.runs_call listed
  cases a <;> cases ha
  obtain ⟨a, rfl, rfl⟩ := Attempt.runs_call updated
  exact .asked (appended_eq found policies id) a

/-- An event after the lookup and before the permission is read: if it is a call, it enables the
permissions or creates a policy. -/
def Prepares (realm : String) (ev : Facility.Event) : Prop :=
  ∀ t c, ev.query = .call t c →
    c = .enablePermissions realm ∨ ∃ server policy, c = .createPolicy realm server policy

theorem enable_prepares {context : String} {a : Except Fault Wire.PermissionReference}
    (run : (Work.call context (.enablePermissions realm)).Runs slot es a slot') :
    ∀ ev ∈ es, Prepares realm ev := fun _ hev _ _ asked =>
  .inl (step_makes (s := .call context (.enablePermissions realm)) run hev asked)

theorem create_prepares {a : Except Fault String}
    (run : (Work.create policy (Facility.call (.createPolicy realm server policy))).Runs slot es a
      slot') :
    ∀ ev ∈ es, Prepares realm ev := fun _ hev _ _ asked =>
  .inr ⟨server, policy, step_makes (s := .create (.policy realm server policy)) run hev asked⟩

theorem create_made
    (run : (Work.create policy (Facility.call (.createPolicy realm server policy))).Runs slot es
      (.ok id) slot') : Made es (.policy realm server policy) id := by
  obtain ⟨a, accessed, decided⟩ := runs_create run
  cases a with
  | error f => cases decided
  | ok receipt =>
    obtain ⟨success, carried⟩ := Receipt.outcome_eq_ok.mp decided.symm
    exact .policy ((accessed_ok_iff accessed receipt).mp rfl) success carried

/-- How a grant goes: there is not one client to be found, or something fails before the permission
is read, or all comes down to binding the policy. -/
inductive Granting (realm : String) (policy : Wire.Policy) :
    List Facility.Event → Except Fault Unit → Prop
  | unmanaged {es : List Facility.Event} {a : Except Fault (List Wire.Client)} {f : Fault}
      (looked : Looked realm es a) (failed : a >>= sole = .error f) :
      Granting realm policy es (.error f)
  | stopped {es es' : List Facility.Event} {management : Wire.Client}
      (looked : Looked realm es (.ok [management])) (prepares : ∀ ev ∈ es', Prepares realm ev)
      (f : Fault) : Granting realm policy (es ++ es') (.error f)
  | bound {es₁ es₂ es₃ es₄ : List Facility.Event} {management : Wire.Client}
      {server permission id : String} {slot slot' : TokenSlot} {r : Except Fault Unit}
      (looked : Looked realm es₁ (.ok [management])) (managed : management.id = some server)
      (prepares : ∀ ev ∈ es₂ ++ es₃, Prepares realm ev) (permitted : Permitted es₂ realm permission)
      (made : Made es₃ (.policy realm server policy) id)
      (binds : (Plan.bindPolicy realm server permission id).Runs slot es₄ r slot') :
      Granting realm policy (es₁ ++ (es₂ ++ (es₃ ++ es₄))) r

theorem grantImpersonation_runs {client : Wire.Client} {r : Except Fault Unit}
    (identified : client.id = some uuid)
    (run : (Plan.grantImpersonation realm client).Runs slot es r slot') :
    Granting realm (Plan.impersonationPolicy client.clientId uuid) es r := by
  simp only [Plan.grantImpersonation, identified] at run
  rcases Runs.of_bind run with ⟨f, found, rfl⟩ | ⟨management, es₁, es', slot₁, rfl, found, rest⟩
  · obtain ⟨a, looked, failed⟩ := findManagement_runs found
    exact .unmanaged looked failed.symm
  obtain ⟨a, looked, one⟩ := findManagement_runs found
  have here : Looked realm es₁ (.ok [management]) := by
    cases a with
    | error f => cases one
    | ok clients => exact sole_ok_iff.mp one.symm ▸ looked
  split at rest
  case h_2 =>
    obtain ⟨rfl, rfl, _⟩ := Runs.of_throw rest
    exact .stopped here (fun ev hev => (List.not_mem_nil hev).elim) _
  case h_1 server managed =>
    rcases Runs.of_bind rest with ⟨f, enabled, rfl⟩ | ⟨reference, es₂, es', slot₂, rfl, enabled, rest⟩
    · exact .stopped here (enable_prepares enabled) f
    split at rest
    case h_2 =>
      obtain ⟨rfl, rfl, _⟩ := Runs.of_throw rest
      rw [List.append_nil]
      exact .stopped here (enable_prepares enabled) _
    case h_1 permission permits =>
      rcases Runs.of_bind rest with ⟨f, created, rfl⟩ | ⟨id, es₃, es₄, slot₃, rfl, created, binds⟩
      all_goals have prepares :=
        List.forall_mem_append.mpr ⟨enable_prepares enabled, create_prepares created⟩
      · exact .stopped here prepares f
      · have told : Told es₂ (.enablePermissions realm) reference :=
          (accessed_ok_iff (Runs.of_access enabled) reference).mp rfl
        exact .bound here managed prepares ⟨reference, told, permits⟩ (create_made created) binds

/-! ## Requests -/

variable {e : Endpoint} {base : Url} {js js' lead : List Outside.Event} {j : Outside.Event}

/-- The exchange ended with a success. -/
def Succeeded (j : Outside.Event) : Prop :=
  ∃ r reply, j = ⟨.exchange r, .ok reply⟩ ∧ reply.status.isSuccess = true

/-- The exchange ended with the rejection of its token. -/
def Rejected (j : Outside.Event) : Prop :=
  ∃ r reply, j = ⟨.exchange r, .ok reply⟩ ∧ reply.status = .unauthorized

/-- The exchange ended in a way that is a failure for an update. -/
def Failed (j : Outside.Event) (err : ProviderError) : Prop :=
  ∃ r o, j = ⟨.exchange r, o⟩ ∧
    ∀ realm server permission, (Call.updatePermission realm server permission).answer o = .error err

/-- Three exchanges of one attempt, with one token: the permission is read, its policies are listed,
and the permission is put back with one policy more. -/
inductive Appended (base : Url) (realm server permission id : String) (t : Token) :
    Outside.Event → Outside.Event → Outside.Event → Prop
  | intro {j₁ j₂ j₃ : Outside.Event} {reply₁ reply₂ : Http.Reply} {found : Wire.Policy}
      {policies : List Wire.Policy} {r : Http.Request}
      (read : Answered base t (.findPermission realm server permission) reply₁ j₁)
      (reads : Spells Wire.Policy.codec reply₁ found)
      (listed : Answered base t (.findPolicies realm server permission) reply₂ j₂)
      (lists : Spells (.list Wire.Policy.codec) reply₂ policies)
      (puts : Puts base t realm server (appended found policies id) r)
      (asked : j₃.query = .exchange r) : Appended base realm server permission id t j₁ j₂ j₃

theorem Appended.updates {j₁ j₂ j₃ : Outside.Event}
    (h : Appended base realm server permission id t j₁ j₂ j₃) : Updates base j₃ := by
  obtain ⟨_, _, _, _, puts, asked⟩ := h
  exact ⟨t, realm, server, _, _, puts, asked⟩

theorem Appended.quiet {j₁ j₂ j₃ : Outside.Event}
    (h : Appended base realm server permission id t j₁ j₂ j₃) :
    ∀ j ∈ [j₁, j₂], ¬ Updates base j := by
  obtain ⟨read, _, listed, _, _, _⟩ := h
  intro j hj
  rcases List.mem_pair.mp hj with rfl | rfl
  · exact read.quiet rfl
  · exact listed.quiet rfl

/-- The last of the three exchanges is the only one that puts something in place. -/
theorem Appended.eq_last {j₁ j₂ j₃ : Outside.Event}
    (h : Appended base realm server permission id t j₁ j₂ j₃) (hj : j ∈ [j₁, j₂] ++ [j₃])
    (updates : Updates base j) : j = j₃ := by
  rcases List.mem_append.mp hj with hj | hj
  · exact (h.quiet j hj updates).elim
  · exact List.mem_singleton.mp hj

/-! ### Attempts -/

/-- What an attempt sends: no update, and it fails, or one that is the last of its three requests, and
whose outcome is that of the attempt. -/
inductive Tried (base : Url) (realm server permission id : String) (t : Token) :
    List Outside.Event → Except Setback Unit → Prop
  | short {js : List Outside.Event} {s : Setback} (quiet : ∀ j ∈ js, ¬ Updates base j) :
      Tried base realm server permission id t js (.error s)
  | whole {j₁ j₂ : Outside.Event} {r : Http.Request} {o : Http.Outcome}
      (done : Appended base realm server permission id t j₁ j₂ ⟨.exchange r, o⟩)
      {a : Except ProviderError Unit}
      (outcome : ∀ realm server permission,
        (Call.updatePermission realm server permission).answer o = a) :
      Tried base realm server permission id t [j₁, j₂, ⟨.exchange r, o⟩] (a.mapError .raw)

theorem Bound.tried {a : Except Setback Unit} (h : Bound realm server permission id t es a)
    (carried : Program.Carried e.find es js) : Tried e.base realm server permission id t js a := by
  cases h with
  | unread err =>
    refine .short (carried_updates carried fun ev hev t c asked => ?_)
    obtain rfl := List.mem_singleton.mp hev
    cases asked
    rfl
  | unlisted found err =>
    refine .short (carried_updates carried fun ev hev t c asked => ?_)
    rcases List.mem_pair.mp hev with rfl | rfl <;> cases asked <;> rfl
  | asked same a =>
    subst same
    obtain ⟨js₁, js', rfl, first, rest⟩ := carried.of_cons
    obtain ⟨js₂, js₃, rfl, second, third⟩ := rest.of_cons
    obtain ⟨reply₁, j₁, rfl, read, reads⟩ := Call.runs_perform_ok first
    obtain ⟨reply₂, j₂, rfl, listed, lists⟩ := Call.runs_perform_ok second
    have done {r : Http.Request} {j : Outside.Event}
        (requested : (Call.updatePermission realm server _).request e.base t = .ok r)
        (asked : j.query = .exchange r) : Appended e.base realm server permission id t j₁ j₂ j :=
      .intro read (value_eq_ok.mp reads) listed (value_eq_ok.mp lists) (Call.puts requested) asked
    rcases Call.runs_perform third.of_single with ⟨rfl, _⟩ | ⟨r, o, requested, _, rfl, rfl⟩
    · cases a with
      | ok v =>
        obtain ⟨_, _, none, _⟩ := Call.runs_perform_ok third.of_single
        cases none
      | error err =>
        -- The update could not even be sent.
        refine .short fun j hj => ?_
        rcases List.mem_pair.mp hj with rfl | rfl
        · exact read.quiet rfl
        · exact listed.quiet rfl
    · exact .whole (done requested rfl) fun _ _ _ => rfl

/-! ### All attempts -/

/-- Whatever is put in place was read just before. -/
def Grounded (base : Url) (realm server permission id : String) (js : List Outside.Event) : Prop :=
  ∀ before j after, js = before ++ j :: after → Updates base j → ∃ front j₁ j₂ t,
    before = front ++ [j₁, j₂] ∧ Appended base realm server permission id t j₁ j₂ j

theorem Grounded.of_quiet (quiet : ∀ j ∈ js, ¬ Updates base j) :
    Grounded base realm server permission id js := by
  rintro before j after rfl updates
  exact (quiet j (by simp) updates).elim

theorem Grounded.append (h : Grounded base realm server permission id js)
    (h' : Grounded base realm server permission id js') :
    Grounded base realm server permission id (js ++ js') := by
  intro before j after cut updates
  rcases Program.append_eq_place cut with ⟨rest, here, _⟩ | ⟨front, rfl, there⟩
  · exact h before j rest here updates
  · obtain ⟨front', j₁, j₂, t, rfl, done⟩ := h' front j after there updates
    exact ⟨js ++ front', j₁, j₂, t, (List.append_assoc ..).symm, done⟩

theorem Appended.grounded {j₁ j₂ j₃ : Outside.Event}
    (h : Appended base realm server permission id t j₁ j₂ j₃) :
    Grounded base realm server permission id [j₁, j₂, j₃] := by
  intro before j after cut updates
  have cut : [j₁, j₂] ++ [j₃] = before ++ j :: after := cut
  rcases Program.append_eq_place cut with ⟨rest, here, _⟩ | ⟨front, rfl, there⟩
  · exact (h.quiet j (here ▸ by simp) updates).elim
  · obtain ⟨rfl, rfl, rfl⟩ : front = [] ∧ j = j₃ ∧ after = [] := by
      rcases front with _ | ⟨_, _ | _⟩ <;> cases there
      exact ⟨rfl, rfl, rfl⟩
    exact ⟨[], j₁, j₂, t, rfl, h⟩

/-- How what was sent bears on what is reported. -/
structure Reports (base : Url) (js : List Outside.Event) (r : Except Fault Unit) : Prop where
  /-- A success ends with an update, and that is the only one to succeed. -/
  succeeds : r = .ok () → ∃ before j, js = before ++ [j] ∧ Updates base j ∧ Succeeded j ∧
    ∀ j' ∈ before, Updates base j' → Rejected j'
  /-- In a failure an update was sent only if this is what failed, or if its token was rejected. -/
  fails : ∀ f, r = .error f → ∀ j ∈ js, Updates base j → Rejected j ∨
    ∃ before context err, js = before ++ [j] ∧ Failed j err ∧ f = .provider context (some err)

theorem Reports.of_quiet (quiet : ∀ j ∈ js, ¬ Updates base j) (f : Fault) :
    Reports base js (.error f) where
  succeeds := nofun
  fails _ _ j hj updates := (quiet j hj updates).elim

theorem Reports.behind {r : Except Fault Unit} (rejected : ∀ j ∈ lead, Updates base j → Rejected j)
    (h : Reports base js r) : Reports base (lead ++ js) r where
  succeeds hr := by
    obtain ⟨before, j, rfl, updates, succeeded, others⟩ := h.succeeds hr
    refine ⟨lead ++ before, j, (List.append_assoc ..).symm, updates, succeeded, fun j' hj' => ?_⟩
    exact (List.mem_append.mp hj').elim (rejected j') (others j')
  fails f hr j hj updates := by
    rcases List.mem_append.mp hj with hj | hj
    · exact .inl (rejected j hj updates)
    · refine (h.fails f hr j hj updates).imp_right ?_
      rintro ⟨before, context, err, rfl, failed⟩
      exact ⟨lead ++ before, context, err, (List.append_assoc ..).symm, failed⟩

/-- What binding a policy sends, and what it comes to. -/
structure Binds (base : Url) (realm server permission id : String) (js : List Outside.Event)
    (r : Except Fault Unit) : Prop where
  grounded : Grounded base realm server permission id js
  reports : Reports base js r

theorem Binds.of_quiet (quiet : ∀ j ∈ js, ¬ Updates base j) (f : Fault) :
    Binds base realm server permission id js (.error f) :=
  ⟨.of_quiet quiet, .of_quiet quiet f⟩

/-- What went before may have updates as well, if their tokens were rejected. -/
theorem Binds.behind {r : Except Fault Unit} (grounded : Grounded base realm server permission id lead)
    (rejected : ∀ j ∈ lead, Updates base j → Rejected j)
    (h : Binds base realm server permission id js r) :
    Binds base realm server permission id (lead ++ js) r :=
  ⟨grounded.append h.grounded, .behind rejected h.reports⟩

theorem Binds.behind_quiet {r : Except Fault Unit} (quiet : ∀ j ∈ lead, ¬ Updates base j)
    (h : Binds base realm server permission id js r) :
    Binds base realm server permission id (lead ++ js) r :=
  h.behind (.of_quiet quiet) fun j hj updates => (quiet j hj updates).elim

theorem Tried.binds {a : Except Setback Unit} (h : Tried base realm server permission id t js a)
    (context : String) :
    Binds base realm server permission id js (a.mapError (Setback.fault context)) := by
  cases h with
  | short quiet => exact .of_quiet quiet _
  | @whole j₁ j₂ r o done a outcome =>
    refine ⟨done.grounded, fun succeeded => ?_, fun f failed j hj updates => ?_⟩
    · have accepted : a = .ok () := mapError_ok (mapError_ok succeeded)
      obtain ⟨reply, rfl, read⟩ :=
        Call.answer_ok ((outcome realm server Wire.Policy.record.blank).trans accepted)
      exact ⟨[j₁, j₂], _, rfl, done.updates, ⟨r, reply, rfl, updatePermission_accepted read⟩,
        fun j hj updates => (done.quiet j hj updates).elim⟩
    · have last : j = ⟨.exchange r, o⟩ := done.eq_last hj updates
      cases a with
      | ok v => cases failed
      | error err =>
        cases failed
        exact .inr ⟨[j₁, j₂], context, err, by rw [last]; rfl, ⟨r, o, last, outcome⟩, rfl⟩

/-- An attempt whose token was rejected has left no other update than one that was rejected. -/
theorem Tried.rebuffed (h : Tried base realm server permission id t js (.error (.raw .unauthorized))) :
    Grounded base realm server permission id js ∧ ∀ j ∈ js, Updates base j → Rejected j := by
  generalize ha : Except.error (Setback.raw .unauthorized) = a at h
  cases h with
  | short quiet => exact ⟨.of_quiet quiet, fun j hj updates => (quiet j hj updates).elim⟩
  | @whole j₁ j₂ r o done a outcome =>
    obtain rfl := mapError_raw_unauthorized ha.symm
    obtain ⟨reply, rfl, rejected⟩ :=
      Call.answer_rejected (outcome realm server Wire.Policy.record.blank)
    exact ⟨done.grounded, fun j hj updates => ⟨r, reply, done.eq_last hj updates, rejected⟩⟩

theorem waits_quiet (carried : Program.Carried e.find es js) (waits : ∀ ev ∈ es, Waits ev) :
    ∀ j ∈ js, ¬ Updates e.base j :=
  carried_updates carried fun ev hev t c asked => (waits ev hev t c asked).elim

theorem bindPolicy_binds {r : Except Fault Unit}
    (run : (Plan.bindPolicy realm server permission id).Runs slot es r slot')
    (carried : Program.Carried e.find es js) : Binds e.base realm server permission id js r := by
  obtain ⟨context, attempt, accessed, bound⟩ := bindPolicy_runs run
  cases accessed with
  | tokenless issued => exact .of_quiet (waits_quiet carried (issue_waits issued)) _
  | once token tried _ =>
    obtain ⟨js₁, js₂, rfl, carried₁, carried₂⟩ := carried.of_append
    exact .behind_quiet (waits_quiet carried₁ (obtained_waits token)) <|
      ((bound _ _ _ tried).tried carried₂).binds context
  | unrenewed token tried renewed =>
    obtain ⟨js₁, js', rfl, carried₁, carried'⟩ := carried.of_append
    obtain ⟨js₂, js₃, rfl, carried₂, carried₃⟩ := carried'.of_append
    obtain ⟨grounded, rejected⟩ := ((bound _ _ _ tried).tried carried₂).rebuffed
    exact .behind_quiet (waits_quiet carried₁ (obtained_waits token)) <|
      .behind grounded rejected <| .of_quiet (waits_quiet carried₃ (issue_waits renewed)) _
  | twice token tried renewed retried =>
    obtain ⟨js₁, js', rfl, carried₁, carried'⟩ := carried.of_append
    obtain ⟨js₂, js'', rfl, carried₂, carried''⟩ := carried'.of_append
    obtain ⟨js₃, js₄, rfl, carried₃, carried₄⟩ := carried''.of_append
    obtain ⟨grounded, rejected⟩ := ((bound _ _ _ tried).tried carried₂).rebuffed
    exact .behind_quiet (waits_quiet carried₁ (obtained_waits token)) <|
      .behind grounded rejected <|
      .behind_quiet (waits_quiet carried₃ (issue_waits renewed)) <|
      ((bound _ _ _ retried).tried carried₄).binds context

/-! ### The grant -/

/-- What the exchanges before an update have told: the id of the one client that holds permissions on
users, the permission to act as any of them, and the policy that was created for the client. -/
structure Known (base : Url) (realm uuid : String) (past : List Outside.Event)
    (server permission id : String) : Prop where
  managed : ∃ t reply, ∃ j ∈ past, Answered base t (.findClients realm "realm-management") reply j ∧
    ∃ clients management, Spells (.list Wire.Client.codec) reply clients ∧
      clients.filter (fun c => c.clientId = "realm-management") = [management] ∧
      management.id = some server
  permitted : ∃ t reply, ∃ j ∈ past, Answered base t (.enablePermissions realm) reply j ∧
    ∃ reference, Spells Wire.PermissionReference.codec reply reference ∧
      reference.scopePermissions.get? "impersonate" = some permission
  created : ∃ t reply policy, ∃ j ∈ past, Answered base t (.createPolicy realm server policy) reply j ∧
    policy.clients = some [uuid] ∧ reply.status.isSuccess = true ∧
    ∃ receipt, Provider.receipt reply = .ok receipt ∧ receipt.Names id

/-- An update puts in place what was read by the two exchanges before it, at a place and with a policy
that were told before. -/
def Foretold (base : Url) (realm uuid : String) (js : List Outside.Event) : Prop :=
  ∀ before j after, js = before ++ j :: after → Updates base j →
    ∃ past j₁ j₂ t server permission id, before = past ++ [j₁, j₂] ∧
      Known base realm uuid past server permission id ∧
      Appended base realm server permission id t j₁ j₂ j

theorem Looked.makes {a : Except Fault (List Wire.Client)} (h : Looked realm es a)
    {ev : Facility.Event} (hev : ev ∈ es) {c : Call} (asked : ev.query = .call t c) :
    c = .findClients realm "realm-management" := by
  obtain ⟨context, slot, slot', run⟩ := h
  exact step_makes (s := .call context (.findClients realm "realm-management")) run hev asked

theorem Looked.ok_iff {a : Except Fault (List Wire.Client)} (h : Looked realm es a)
    (found : List Wire.Client) :
    a = .ok found ↔ Told es (.findClients realm "realm-management") found := by
  obtain ⟨context, slot, slot', run⟩ := h
  exact accessed_ok_iff (Runs.of_access run) found

theorem prepares_quiet (carried : Program.Carried e.find es js)
    (prepares : ∀ ev ∈ es, Prepares realm ev) : ∀ j ∈ js, ¬ Updates e.base j := by
  refine carried_updates carried fun ev hev t c asked => ?_
  rcases prepares ev hev t c asked with rfl | ⟨_, _, rfl⟩ <;> rfl

theorem Looked.quiet {a : Except Fault (List Wire.Client)} (h : Looked realm es a)
    (carried : Program.Carried e.find es js) : ∀ j ∈ js, ¬ Updates e.base j := by
  refine carried_updates carried fun ev hev t c asked => ?_
  obtain rfl := h.makes hev asked
  rfl

theorem Looked.reads {a : Except Fault (List Wire.Client)} (h : Looked realm es a)
    (carried : Program.Carried e.find es js) : js.filter Outside.mutates = [] := by
  have reading : es.filter Facility.mutates = [] := by
    refine List.filter_eq_nil_iff.mpr fun ev hev => ?_
    obtain ⟨q, a⟩ := ev
    cases q with
    | call t c =>
      obtain rfl := h.makes hev rfl
      exact Bool.false_ne_true
    | _ => exact Bool.false_ne_true
  exact (reading ▸ carried_mutations carried).of_nil

/-- What was known of the past is known of a longer one. -/
theorem Known.mono {past past' : List Outside.Event}
    (h : Known base realm uuid past server permission id) (longer : past ⊆ past') :
    Known base realm uuid past' server permission id where
  managed := by
    obtain ⟨t, reply, j, hj, told⟩ := h.managed
    exact ⟨t, reply, j, longer hj, told⟩
  permitted := by
    obtain ⟨t, reply, j, hj, told⟩ := h.permitted
    exact ⟨t, reply, j, longer hj, told⟩
  created := by
    obtain ⟨t, reply, policy, j, hj, told⟩ := h.created
    exact ⟨t, reply, policy, j, longer hj, told⟩

/-- What was told over calls was told in the exchanges that carried them out. -/
theorem known_of_told {es₁ es₂ es₃ : List Facility.Event} {js₁ js₂ js₃ : List Outside.Event}
    {management : Wire.Client} (carried₁ : Program.Carried e.find es₁ js₁)
    (carried₂ : Program.Carried e.find es₂ js₂) (carried₃ : Program.Carried e.find es₃ js₃)
    (looked : Looked realm es₁ (.ok [management])) (managed : management.id = some server)
    (permitted : Permitted es₂ realm permission) (made : Made es₃ (.policy realm server policy) id)
    (forClient : policy.clients = some [uuid]) :
    Known e.base realm uuid (js₁ ++ (js₂ ++ js₃)) server permission id where
  managed := by
    obtain ⟨t, told⟩ := (looked.ok_iff _).mp rfl
    obtain ⟨reply, j, hj, answered, read⟩ := carried_told carried₁ told
    obtain ⟨clients, spells, one⟩ := findClients_read read
    exact ⟨t, reply, j, by simp [hj], answered, clients, management, spells, one, managed⟩
  permitted := by
    obtain ⟨reference, ⟨t, told⟩, permits⟩ := permitted
    obtain ⟨reply, j, hj, answered, read⟩ := carried_told carried₂ told
    exact ⟨t, reply, j, by simp [hj], answered, reference, value_eq_ok.mp read, permits⟩
  created := by
    cases made with
    | @policy _ _ _ receipt _ told success named =>
      obtain ⟨t, told⟩ := told
      obtain ⟨reply, j, hj, answered, read⟩ := carried_told carried₃ told
      have status : receipt.status = reply.status := receipt_status read
      exact ⟨t, reply, policy, j, by simp [hj], answered, forClient, status ▸ success, receipt, read,
        Receipt.id?_iff.mp named⟩

theorem bindPolicy_looks {r : Except Fault Unit}
    (run : (Plan.bindPolicy realm server permission id).Runs slot es r slot') {ev : Facility.Event}
    (hev : ev ∈ es) {realm' clientId : String} : ev.query ≠ .call t (.findClients realm' clientId) := by
  intro asked
  rcases step_makes (s := .bindPolicy realm server permission id) run hev asked with
    made | made | ⟨_, made⟩ <;> cases made

/-- Clients are looked up once, and this is all there is unless there is one. -/
theorem Granting.looked {r : Except Fault Unit} (h : Granting realm policy es r)
    {clientId : String} {realm' : String} {a : Except ProviderError (List Wire.Client)}
    (told : ⟨.call t (.findClients realm' clientId), a⟩ ∈ es) :
    ∃ es₁ a', ⟨.call t (.findClients realm' clientId), a⟩ ∈ es₁ ∧ Looked realm es₁ a' ∧
      ((∃ management, a' = .ok [management]) ∨
        es₁ = es ∧ ∃ f, a' >>= sole = .error f ∧ r = .error f) := by
  have unprepared {es : List Facility.Event} (prepares : ∀ ev ∈ es, Prepares realm ev)
      (told : ⟨.call t (.findClients realm' clientId), a⟩ ∈ es) : False := by
    rcases prepares _ told t _ rfl with made | ⟨_, _, made⟩ <;> cases made
  cases h with
  | unmanaged looked failed => exact ⟨es, _, told, looked, .inr ⟨rfl, _, failed, rfl⟩⟩
  | stopped looked prepares f =>
    rcases List.mem_append.mp told with told | told
    · exact ⟨_, _, told, looked, .inl ⟨_, rfl⟩⟩
    · exact (unprepared prepares told).elim
  | bound looked managed prepares permitted made binds =>
    rw [← List.append_assoc _ _ (_ ++ _), List.append_assoc] at told
    rcases List.mem_append.mp told with told | told
    · exact ⟨_, _, told, looked, .inl ⟨_, rfl⟩⟩
    rw [← List.append_assoc] at told
    rcases List.mem_append.mp told with told | told
    · exact (unprepared prepares told).elim
    · exact (bindPolicy_looks binds told rfl).elim

/-- What a grant sends, and what it comes to. -/
structure Grants (base : Url) (realm uuid : String) (js : List Outside.Event)
    (r : Except Fault Unit) : Prop extends Reports base js r where
  foretold : Foretold base realm uuid js
  /-- If there is not one client that holds the permissions, nothing is changed. -/
  unmanaged : ∀ t reply clients n, ∀ j ∈ js,
    Answered base t (.findClients realm "realm-management") reply j →
    Spells (.list Wire.Client.codec) reply clients →
    (clients.filter fun c => c.clientId = "realm-management").length = n → n ≠ 1 →
    js.filter Outside.mutates = [] ∧
      r = .error (if n = 0 then .absent "client 'realm-management'"
        else .ambiguous "client 'realm-management'" n)

theorem Granting.unmanaged_changes {r : Except Fault Unit} (h : Granting realm policy es r)
    (carried : Program.Carried e.find es js) {reply : Http.Reply} {clients : List Wire.Client}
    (hj : j ∈ js) (answered : Answered e.base t (.findClients realm "realm-management") reply j)
    (spells : Spells (.list Wire.Client.codec) reply clients) {n : Nat}
    (count : (clients.filter fun c => c.clientId = "realm-management").length = n) (several : n ≠ 1) :
    js.filter Outside.mutates = [] ∧
      r = .error (if n = 0 then .absent "client 'realm-management'"
        else .ambiguous "client 'realm-management'" n) := by
  obtain ⟨t', realm', clientId, told⟩ := carried_lookup carried hj answered
  obtain ⟨es₁, a, told, looked, alone⟩ := h.looked told
  cases looked.makes told rfl
  rw [findClients_answer spells] at told
  generalize (clients.filter fun c => c.clientId = "realm-management") = found at told count
  subst count
  obtain rfl := (looked.ok_iff found).mpr ⟨t', told⟩
  rcases alone with ⟨management, one⟩ | ⟨rfl, f, failed, rfl⟩
  · cases one
    exact (several rfl).elim
  · have reported := Except.error.inj (failed.symm.trans (sole_error several))
    exact ⟨looked.reads carried, congrArg Except.error reported⟩

theorem Granting.appends {r : Except Fault Unit} (h : Granting realm policy es r)
    (carried : Program.Carried e.find es js) (forClient : policy.clients = some [uuid]) :
    Reports e.base js r ∧ Foretold e.base realm uuid js := by
  have quietly {js : List Outside.Event} (quiet : ∀ j ∈ js, ¬ Updates e.base j) (f : Fault) :
      Reports e.base js (.error f) ∧ Foretold e.base realm uuid js := by
    refine ⟨.of_quiet quiet f, ?_⟩
    rintro before j after rfl updates
    exact (quiet j (by simp) updates).elim
  cases h with
  | unmanaged looked failed => exact quietly (looked.quiet carried) _
  | stopped looked prepares f =>
    obtain ⟨js₁, js₂, rfl, carried₁, carried₂⟩ := carried.of_append
    exact quietly (List.forall_mem_append.mpr
      ⟨looked.quiet carried₁, prepares_quiet carried₂ prepares⟩) f
  | bound looked managed prepares permitted made binds =>
    obtain ⟨js₁, js', rfl, carried₁, carried'⟩ := carried.of_append
    obtain ⟨js₂, js'', rfl, carried₂, carried''⟩ := carried'.of_append
    obtain ⟨js₃, js₄, rfl, carried₃, carried₄⟩ := carried''.of_append
    have quiet := List.forall_mem_append.mpr
      ⟨looked.quiet carried₁, prepares_quiet (carried₂.append carried₃) prepares⟩
    have known := known_of_told carried₁ carried₂ carried₃ looked managed permitted made forClient
    have bound := bindPolicy_binds binds carried₄
    rw [← List.append_assoc js₂, ← List.append_assoc js₁]
    refine ⟨bound.reports.behind fun j hj updates => (quiet j hj updates).elim, ?_⟩
    intro before j after cut updates
    rcases Program.append_eq_place cut with ⟨rest, here, _⟩ | ⟨front, rfl, there⟩
    · exact (quiet j (here ▸ by simp) updates).elim
    · obtain ⟨past, j₁, j₂, t, rfl, done⟩ := bound.grounded front j after there updates
      exact ⟨_, j₁, j₂, t, _, _, _, (List.append_assoc ..).symm,
        known.mono (List.subset_append_left _ past), done⟩

/-- Over the network, whatever is answered: a grant of impersonation that succeeds ends with an update
of a permission, the only one that was not rejected, and this update puts back the permission that was
read just before with the policies that were listed, none of them lost, and the client's own policy. A
grant that fails sends no update unless this is what fails or what was rejected on the way, and it
changes nothing if there is not one client that holds the permissions. -/
theorem grant_appends {client : Wire.Client} {r : Except Fault Unit}
    (identified : client.id = some uuid)
    (run : ((Plan.grantImpersonation realm client).through e).Runs slot js r slot') :
    Grants e.base realm uuid js r := by
  obtain ⟨es, work, carried⟩ := runs_through run
  have granting := grantImpersonation_runs identified work
  obtain ⟨reports, foretold⟩ := granting.appends carried rfl
  exact ⟨reports, foretold, fun _ _ _ _ _ hj answered spells count several =>
    granting.unmanaged_changes carried hj answered spells count several⟩

/-- A client that may act as any user. -/
def impersonator : Wire.Client :=
  { (ClientPlan.forImpersonation usual.plan.clients 0).client "s" with id := some "c" }

/-- The exchange of a call. -/
def exchanged (t : Token) (c : Call) (status : Status) (text : String) : Outside.Event :=
  match c.request kc.base t with
  | .ok r => ⟨.exchange r, .ok ⟨status, [], .ok text.toUTF8.data.toList⟩⟩
  | .error _ => ⟨.now, (0 : Nat)⟩

/-- The permission with the policy that it had and the new one. -/
def widened : Wire.Policy :=
  ⟨some "p", "impersonate", none, "scope", .positive, .unanimous, ∅, none, some ["a", "x"]⟩

/-- An attempt to put it in place. -/
def widening (t : Token) (status : Status) : List Outside.Event :=
  [exchanged t (.findPermission "acme" "rm" "p") .ok
     "\x7b\"id\":\"p\",\"name\":\"impersonate\",\"type\":\"scope\"\x7d",
   exchanged t (.findPolicies "acme" "rm" "p") .ok
     "[\x7b\"id\":\"a\",\"name\":\"A\",\"type\":\"role\"\x7d]",
   exchanged t (.updatePermission "acme" "rm" widened) status ""]

/-- The token of the first update is rejected, and the attempt is made again with a new one. -/
def grantedEvents : List Outside.Event :=
  [exchanged "t" (.findClients "acme" "realm-management") .ok
     "[\x7b\"id\":\"rm\",\"clientId\":\"realm-management\"\x7d]",
   exchanged "t" (.enablePermissions "acme") .ok
     "\x7b\"enabled\":true,\"scopePermissions\":\x7b\"impersonate\":\"p\"\x7d\x7d",
   exchanged "t" (.createPolicy "acme" "rm" (Plan.impersonationPolicy impersonator.clientId "c"))
     .created "\x7b\"id\":\"x\"\x7d"] ++
  widening "t" .unauthorized ++
  [⟨.readSecret "keycloak-admin-client-secret", .ok none⟩,
   ⟨.readSecret "keycloak-admin-password", .ok none⟩,
   ⟨.exchange (kc.login.request none none),
    .ok ⟨.ok, [], .ok "\x7b\"access_token\":\"u\"\x7d".toUTF8.data.toList⟩⟩] ++
  widening "u" .noContent

theorem granted_appends : impersonator.id = some "c" ∧
    ((Plan.grantImpersonation "acme" impersonator).through kc).Runs ⟨some "t"⟩ grantedEvents (.ok ())
      ⟨some "u"⟩ ∧
    Grants kc.base "acme" "c" grantedEvents (.ok ()) := by
  have run : ((Plan.grantImpersonation "acme" impersonator).through kc).Runs ⟨some "t"⟩
      grantedEvents (.ok ()) ⟨some "u"⟩ :=
    .ask (.ask (.ask (.ask (.ask (.ask (.ask (.ask (.ask (.ask (.ask (.ask (.done _))))))))))))
  exact ⟨rfl, run, grant_appends rfl run⟩

end Tenancy.Realm.Impersonation
