import Tenancy.Proofs.Realm.Orphan
import Tenancy.Proofs.Registry.Requests
import Tenancy.Proofs.Work.Agreement
import Tenancy.Service

/-!
# Bodies of failures are not shown

What a server writes into the body of an answer that is no success decides nothing. Neither the life
of a realm nor the registry depends on it: what is asked next, what is kept, and what the caller is
told are the same whatever such bodies say.
-/

namespace Tenancy

open Work

namespace Realm

variable (p : Plan) (realm : String)

theorem obtain_discreet (keyStart clientId : String) :
    Discreet (Secret.obtain keyStart realm clientId) := by
  refine .bind (.readSecret _) fun v => ?_
  cases v with
  | some secret => exact .pure secret
  | none =>
    refine .bind .entropy fun n => ?_
    exact .bind (.writeSecret _ _) fun _ => .pure _

theorem addRole_discreet (name description : String) :
    Discreet (Plan.addRole realm name description) :=
  .bind (.create (.role realm _)) fun _ => .pure _

theorem addRoles_discreet : Discreet (p.addRoles realm) :=
  .bind (addRole_discreet realm _ _) fun _ => .bind (addRole_discreet realm _ _) fun _ => .pure _

theorem grantRole_discreet (client clientId role : String) :
    Discreet (Plan.grantRole realm client clientId role) := by
  refine .calls fun t => .bind (.call (by rfl) t) fun user => .bind (.call (by rfl) t) fun found => ?_
  cases (found : Option Wire.Role) with
  | none => exact .refuse _
  | some role => exact .call (by rfl) t

theorem addClient_discreet (plan : ClientPlan) : Discreet (p.addClient realm plan) := by
  refine .bind (obtain_discreet realm _ _) fun secret => ?_
  refine .bind (.create (.client realm _)) fun id => ?_
  dsimp only
  cases plan.serviceAccountRole with
  | some role => exact .bind (grantRole_discreet realm _ _ role) fun _ => .pure _
  | none => exact .pure _

theorem findManagement_discreet : Discreet (Plan.findManagement realm) := by
  refine .bind (.call (by rfl) _) fun found => ?_
  match (found : List Wire.Client) with
  | [] => exact .refuse _
  | [c] => exact .pure c
  | _ :: _ :: _ => exact .refuse _

theorem bindPolicy_discreet (server permission policy : String) :
    Discreet (Plan.bindPolicy realm server permission policy) :=
  .calls fun t => .bind (.call (by rfl) t) fun _ => .bind (.call (by rfl) t) fun _ => .call (by rfl) t

theorem grantImpersonation_discreet (client : Wire.Client) :
    Discreet (Plan.grantImpersonation realm client) := by
  unfold Plan.grantImpersonation
  cases client.id with
  | none => exact .refuse _
  | some clientUuid =>
    refine .bind (findManagement_discreet realm) fun management => ?_
    cases management.id with
    | none => exact .refuse _
    | some server =>
      refine .bind (.call (by rfl) _) fun permissions => ?_
      dsimp only
      split
      · refine .bind (.create (.policy realm server _)) fun policy => ?_
        exact bindPolicy_discreet realm server _ policy
      · exact .refuse _

theorem findMapper_discreet (name : String) : Discreet (Plan.findMapper name) := by
  refine .bind (.call (by rfl) _) fun info => ?_
  dsimp only
  split
  · exact .pure _
  · exact .refuse _

theorem fill_discreet : Discreet (p.fill realm) := by
  refine .bind (addRoles_discreet p realm) fun _ => ?_
  refine .bind (.bind .now fun _ => addClient_discreet p realm _) fun _ => ?_
  refine .bind (.bind .now fun _ => addClient_discreet p realm _) fun _ => ?_
  refine .bind (.bind .now fun _ => .bind (addClient_discreet p realm _) fun client => ?_)
    fun _ => ?_
  · exact .bind (grantImpersonation_discreet realm client) fun _ => .pure client
  refine .bind (.bind (findMapper_discreet _) fun mapper => ?_) fun _ => .pure _
  exact .bind .now fun _ => addClient_discreet p realm _

/-- Taking the realm away again hides nothing, as its own outcome is dropped. -/
theorem orRemove_discreet {name : String} {work : Work Unit} (h : Discreet work) :
    Discreet (orRemove name work) := by
  intro slot
  refine (h slot).bind fun x x' related => ?_
  obtain ⟨r, slot₁⟩ := x
  obtain ⟨r', slot₁'⟩ := x'
  obtain ⟨matched, rfl⟩ := related
  cases matched with
  | ok same => exact .done ⟨.ok same, rfl⟩
  | error alike =>
    -- The removal may fail with different words in both runs, but nobody looks at how it ends.
    have removed : Discreet (remove name) := .call (by rfl) _
    exact (removed slot₁).bind fun _ _ related => .done ⟨.error alike, related.2⟩

theorem lookup_discreet (name : String) : Discreet (lookup name) := .call (by rfl) _

theorem eligible_discreet (t : Tenant) :
    Discreet (Session.lift (pure (eligible t)) : Work Uuid) := .lift (.done rfl)

theorem establish_discreet (d : Design) (t : Tenant) : Discreet (d.establish t) := by
  refine .bind (eligible_discreet t) fun id => .bind (lookup_discreet _) fun found => ?_
  cases (found : Option Wire.Realm) with
  | some found => exact .pure found
  | none =>
    refine .bind (.create (.realm _)) fun _ => ?_
    exact .bind (orRemove_discreet (fill_discreet d.plan t.name)) fun _ => .pure _

theorem revise_discreet (d : Design) (t : Tenant) : Discreet (d.revise t) :=
  .bind (eligible_discreet t) fun _ => .call (by rfl) _

theorem retire_discreet (name : String) : Discreet (retire name) := by
  refine .bind (lookup_discreet name) fun found => ?_
  cases (found : Option Wire.Realm) with
  | none => exact .pure ()
  | some _ => exact .bind (.call (by rfl) _) fun _ => .pure ()

end Realm

/-! ## The registry -/

namespace Registry.Remote

open Program (Agrees)

variable (r : Remote) (ctx : RequestContext)

/-- Nothing but the status of a reply is looked at. -/
theorem perform_agrees {α : Type} (action : String) (request : Except Fault Http.Request)
    (judge : Status → Option α) :
    Agrees Outside.Alike Eq (perform action request judge) (perform action request judge) := by
  cases request with
  | error f => exact .done rfl
  | ok request =>
    rw [perform_eq]
    refine (Provider.agrees_send request).bind fun o o' h => .done ?_
    cases h <;> rfl

theorem ensure_agrees (t : Tenant) :
    Agrees Outside.Alike Eq (r.ensure ctx t) (r.ensure ctx t) := by
  refine (perform_agrees _ _ onPresence).bind fun found _ same => ?_
  cases same
  match found with
  | .error f => exact .done rfl
  | .ok true => exact .done rfl
  | .ok false => exact perform_agrees _ _ onSuccess

theorem upsert_agrees (t : Tenant) :
    Agrees Outside.Alike Eq (r.upsert ctx t) (r.upsert ctx t) := by
  refine (perform_agrees _ _ onPresence).bind fun found _ same => ?_
  cases same
  match found with
  | .error f => exact .done rfl
  | .ok true => exact perform_agrees _ _ onSuccess
  | .ok false => exact perform_agrees _ _ onSuccess

theorem hear_agrees (e : Event) :
    Agrees Outside.Alike Eq (r.listener.hear ctx e) (r.listener.hear ctx e) := by
  have told {x : Program Outside (Except Fault Unit)} (h : Agrees Outside.Alike Eq x x) :
      Agrees Outside.Alike Eq (published x) (published x) :=
    h.map fun _ _ same => congrArg (Except.mapError Fault.publish) same
  cases e with
  | created t => exact told (ensure_agrees r ctx t)
  | updated t => exact told (upsert_agrees r ctx t)
  | deleted name => exact told (perform_agrees _ _ onSuccessOrAbsence)

end Registry.Remote

/-! ## The service -/

namespace Service

/-- What callers are told of an action, and the token that is kept. -/
def told {α : Type} (a : Action (Except Fault α)) (slot : TokenSlot) :
    Program Outside (Except PublicError α × TokenSlot) :=
  ((·.mapError Fault.publish) <$> a).run slot

theorem told_agrees {α : Type} {w : Work α} (h : Discreet w) (p : Provider.Endpoint)
    (slot : TokenSlot) : Program.Agrees Outside.Alike Eq (told (act p w) slot)
      (told (act p w) slot) := by
  unfold told
  rw [StateT.run_map]
  refine ((h slot).via p.agrees_find).map fun x x' related => ?_
  obtain ⟨r, slot₁⟩ := x
  obtain ⟨r', slot₁'⟩ := x'
  obtain ⟨matched, rfl⟩ := related
  cases matched with
  | ok same =>
    cases same
    rfl
  | error alike => exact congrArg (fun e => (Except.error e, slot₁)) alike.publish

/-- In two worlds that differ in the bodies of failures only, the service asks the same, stores the
same, and tells its callers the same. -/
theorem failure_bodies_unseen {w w' : Outside.World}
    (worlds : Program.AlikeWorlds Outside.Alike w w') (s : Service) (slot : TokenSlot) :
    (∀ t, (told (s.establish t) slot).seen w = (told (s.establish t) slot).seen w') ∧
    (∀ t, (told (s.revise t) slot).seen w = (told (s.revise t) slot).seen w') ∧
    (∀ name, (told (s.retire name) slot).seen w = (told (s.retire name) slot).seen w') ∧
    (∀ name, (told (s.lookup name) slot).seen w = (told (s.lookup name) slot).seen w') ∧
    ∀ (r : Registry.Remote) ctx e,
      (r.listener.hear ctx e).seen w = (r.listener.hear ctx e).seen w' := by
  refine ⟨fun t => ?_, fun t => ?_, fun name => ?_, fun name => ?_, fun r ctx e => ?_⟩
  · exact (told_agrees (Realm.establish_discreet s.design t) s.provider slot).seen_eq worlds
  · exact (told_agrees (Realm.revise_discreet s.design t) s.provider slot).seen_eq worlds
  · exact (told_agrees (Realm.retire_discreet name) s.provider slot).seen_eq worlds
  · exact (told_agrees (Realm.lookup_discreet name) s.provider slot).seen_eq worlds
  · exact (Registry.Remote.hear_agrees r ctx e).seen_eq worlds

/-- The reply of servers that create realms and refuse all else, with the same words every time. -/
def refusal (words : String) (r : Http.Request) : Http.Reply :=
  if r.method = .post ∧ r.url.end? = some "realms" then Realm.locating
  else ⟨if r.method = .get then .notFound else ⟨409⟩, [], .ok (Utf8.encode words)⟩

/-- A world of such servers, with an empty secret store. -/
def refusing (words : String) : Outside.World := fun _ q =>
  match q with
  | .exchange r => .ok (refusal words r)
  | .readSecret _ => .ok none
  | .writeSecret _ _ => .ok ()
  | .cleanTopics _ => .ok ()
  | .entropy => (0 : Nat)
  | .now => (0 : Nat)

theorem refusal_alike (words words' : String) (r : Http.Request) :
    Outside.Alike (.exchange r) (.ok (refusal words r)) (.ok (refusal words' r)) := by
  unfold refusal
  by_cases creates : r.method = .post ∧ r.url.end? = some "realms"
  · rw [if_pos creates, if_pos creates]
    exact .same _
  · rw [if_neg creates, if_neg creates]
    refine .body ?_ _ _ _
    split <;> rfl

/-- A realm is created and not filled, whatever the server says about it. -/
theorem refusals_unseen :
    Program.AlikeWorlds Outside.Alike (refusing "role exists") (refusing "internal: row 7") ∧
      let s : Service := ⟨Realm.usual, Realm.kc, none, false⟩
      (told (s.establish Realm.acme) ⟨some "t"⟩).seen (refusing "role exists") =
        (told (s.establish Realm.acme) ⟨some "t"⟩).seen (refusing "internal: row 7") := by
  have worlds : Program.AlikeWorlds Outside.Alike (refusing "role exists")
      (refusing "internal: row 7") := by
    intro _ _ _ q
    cases q with
    | exchange r => exact refusal_alike _ _ r
    | _ => exact .same _
  exact ⟨worlds, (failure_bodies_unseen worlds ⟨Realm.usual, Realm.kc, none, false⟩ _).1 Realm.acme⟩

end Service

end Tenancy
