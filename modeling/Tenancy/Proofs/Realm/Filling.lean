import Tenancy.Proofs.Work.Order

/-!
# The steps of filling a realm

Every run of `Plan.fill` has a log, and its steps are those of filling: they create roles, clients
and a policy within the realm, look things up, and use the secret store. None of them creates or
removes a realm. What they are there to call does not depend on what the provider answers. The parts
that leave client secrets alone are told apart: they neither use the store nor create a client.
-/

namespace Tenancy

open Provider Work

namespace Realm

/-- A step that filling the realm may take. -/
inductive Fills (realm : String) : Step → Prop
  | role (r : Wire.Role) : Fills realm (.create (.role realm r))
  | client (c : Wire.Client) : Fills realm (.create (.client realm c))
  | policy (server : String) (p : Wire.Policy) : Fills realm (.create (.policy realm server p))
  | grantRole (client clientId role : String) : Fills realm (.grantRole realm client clientId role)
  | bindPolicy (server permission policy : String) :
      Fills realm (.bindPolicy realm server permission policy)
  | findClients (context clientId : String) :
      Fills realm (.call context (.findClients realm clientId))
  | enablePermissions (context : String) : Fills realm (.call context (.enablePermissions realm))
  | serverInfo (context : String) : Fills realm (.call context .serverInfo)
  | readSecret (key : String) : Fills realm (.readSecret key)
  | writeSecret (key value : String) : Fills realm (.writeSecret key value)
  | entropy : Fills realm .entropy
  | now : Fills realm .now
  | refuse (f : Fault) : Fills realm (.refuse f)

/-- A step of filling the realm that leaves client secrets alone. -/
structure Tends (realm : String) (s : Step) : Prop where
  fills : Fills realm s
  quiet : s.Quiet

/-- The calls by which the client of a plan is created and given its role. -/
def ClientPlan.duties (plan : ClientPlan) (realm : String) : List Duty :=
  .createClient realm plan.clientId (some plan.description) ::
    match plan.serviceAccountRole with
    | some role => [.serviceAccount realm, .findRole realm role, .addRoles realm]
    | none => []

/-- The calls by which a realm is filled, in order. -/
def Plan.duties (p : Plan) (realm : String) : List Duty :=
  [.createRole realm p.clients.systemRole (some "Role of module service accounts"),
   .createRole realm p.clients.passwordResetRole (some "Allows resetting user passwords"),
   .createClient realm p.clients.moduleClientId
     (some "Service client used by modules to call each other"),
   .serviceAccount realm, .findRole realm p.clients.systemRole, .addRoles realm,
   .createClient realm (p.clients.loginClientIdFor realm) (some "Client used for user login"),
   .createClient realm p.clients.impersonationClientId
     (some "Client allowed to impersonate realm users"),
   .findClients realm managementClient, .enablePermissions realm,
   .createPolicy realm, .findPermission realm, .findPolicies realm, .updatePermission realm,
   .serverInfo,
   .createClient realm p.clients.passwordResetClientId
     (some "Client issuing password reset tokens")]

variable (p : Plan) (realm : String)

theorem tends_refuse {realm : String} (f : Fault) : Tends realm (.refuse f) :=
  ⟨.refuse f, fun _ _ made => made⟩

theorem obtain_orderly (keyStart clientId : String) :
    Orderly (Fills realm) (Secret.obtain keyStart realm clientId) [] := by
  refine Orderly.bind (.step (Fills.readSecret _)) fun v => ?_
  cases v with
  | some secret => exact .pure secret
  | none =>
    refine Orderly.bind (.step Fills.entropy) fun n => ?_
    exact Orderly.bind (.step (Fills.writeSecret _ _)) fun _ => .pure _

theorem addRole_orderly (name description : String) :
    Orderly (Tends realm) (Plan.addRole realm name description)
      [.createRole realm name (some description)] :=
  Orderly.bind (.step (Tends.mk (Fills.role _) fun _ _ made => by cases made)) fun _ => .pure _

theorem addRoles_orderly :
    Orderly (Tends realm) (p.addRoles realm)
      [.createRole realm p.clients.systemRole (some "Role of module service accounts"),
       .createRole realm p.clients.passwordResetRole (some "Allows resetting user passwords")] := by
  refine Orderly.bind (addRole_orderly realm _ _) fun system => ?_
  exact Orderly.bind (addRole_orderly realm _ _) fun _ => .pure _

theorem addClient_orderly (plan : ClientPlan) :
    Orderly (Fills realm) (p.addClient realm plan) (plan.duties realm) := by
  refine Orderly.bind (obtain_orderly realm _ _) fun secret => ?_
  refine Orderly.bind (.step (Fills.client (plan.client secret))) fun id => ?_
  dsimp only
  cases plan.serviceAccountRole with
  | some role => exact Orderly.bind (.step (Fills.grantRole id _ role)) fun _ => .pure _
  | none => exact .pure _

theorem addModuleClient_orderly :
    Orderly (Fills realm) (p.addModuleClient realm)
      [.createClient realm p.clients.moduleClientId
         (some "Service client used by modules to call each other"),
       .serviceAccount realm, .findRole realm p.clients.systemRole, .addRoles realm] :=
  Orderly.bind (.step Fills.now) fun now =>
    addClient_orderly p realm (.forModules p.clients now)

theorem addLoginClient_orderly :
    Orderly (Fills realm) (p.addLoginClient realm)
      [.createClient realm (p.clients.loginClientIdFor realm) (some "Client used for user login")] :=
  Orderly.bind (.step Fills.now) fun now =>
    addClient_orderly p realm (.forLogin p.clients realm now)

theorem findManagement_orderly :
    Orderly (Tends realm) (Plan.findManagement realm) [.findClients realm managementClient] := by
  refine Orderly.bind (.step (Tends.mk (Fills.findClients _ _) fun _ _ made => by cases made))
    fun found => ?_
  match (found : List Wire.Client) with
  | [] => exact .refuse (tends_refuse _)
  | [c] => exact .pure c
  | _ :: _ :: _ => exact .refuse (tends_refuse _)

theorem grantImpersonation_orderly (client : Wire.Client) :
    Orderly (Tends realm) (Plan.grantImpersonation realm client)
      [.findClients realm managementClient, .enablePermissions realm, .createPolicy realm,
       .findPermission realm, .findPolicies realm, .updatePermission realm] := by
  unfold Plan.grantImpersonation
  cases client.id with
  | none => exact .refuse (tends_refuse _)
  | some clientUuid =>
    refine Orderly.bind (findManagement_orderly realm) fun management => ?_
    cases management.id with
    | none => exact .refuse (tends_refuse _)
    | some server =>
      have enables (context : String) : Tends realm (.call context (.enablePermissions realm)) :=
        ⟨.enablePermissions context, fun _ _ made => by cases made⟩
      refine Orderly.bind (.step (enables _)) fun permissions => ?_
      dsimp only
      split
      · refine Orderly.bind (.step (Tends.mk (Fills.policy server _) fun _ _ made => by cases made))
          fun policy => ?_
        refine .step (Tends.mk (Fills.bindPolicy server _ policy) fun _ _ made => ?_)
        rcases made with made | made | ⟨_, made⟩ <;> cases made
      · exact .refuse (tends_refuse _)

theorem addImpersonationClient_orderly :
    Orderly (Fills realm) (p.addImpersonationClient realm)
      [.createClient realm p.clients.impersonationClientId
         (some "Client allowed to impersonate realm users"),
       .findClients realm managementClient, .enablePermissions realm, .createPolicy realm,
       .findPermission realm, .findPolicies realm, .updatePermission realm] := by
  refine Orderly.bind (.step Fills.now) fun now => ?_
  refine Orderly.bind (addClient_orderly p realm (.forImpersonation p.clients now)) fun client => ?_
  have granted := (grantImpersonation_orderly realm client).mono fun _ tends => tends.fills
  exact Orderly.bind granted fun _ => .pure client

theorem findMapper_orderly (name : String) :
    Orderly (Tends realm) (Plan.findMapper name) [.serverInfo] := by
  refine Orderly.bind (.step (Tends.mk (Fills.serverInfo _) fun _ _ made => by cases made))
    fun info => ?_
  dsimp only
  split
  · exact .pure _
  · exact .refuse (tends_refuse _)

theorem addPasswordResetClient_orderly :
    Orderly (Fills realm) (p.addPasswordResetClient realm)
      [.serverInfo,
       .createClient realm p.clients.passwordResetClientId
         (some "Client issuing password reset tokens")] := by
  have mapped := (findMapper_orderly realm p.clients.passwordResetMapper).mono
    fun _ tends => tends.fills
  refine Orderly.bind mapped fun mapper => ?_
  refine Orderly.bind (.step Fills.now) fun now => ?_
  exact addClient_orderly p realm (.forPasswordReset p.clients mapper now)

/-- A realm is filled by its calls in their order. -/
theorem fill_orderly : Orderly (Fills realm) (p.fill realm) (p.duties realm) := by
  refine Orderly.bind ((addRoles_orderly p realm).mono fun _ tends => tends.fills) fun _ => ?_
  refine Orderly.bind (addModuleClient_orderly p realm) fun _ => ?_
  refine Orderly.bind (addLoginClient_orderly p realm) fun _ => ?_
  refine Orderly.bind (addImpersonationClient_orderly p realm) fun _ => ?_
  exact Orderly.bind (addPasswordResetClient_orderly p realm) fun _ => .pure _

theorem fill_loggable : Loggable (Fills realm) (p.fill realm) := (fill_orderly p realm).loggable

end Realm

end Tenancy
