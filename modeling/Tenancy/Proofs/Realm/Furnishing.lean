import Tenancy.Proofs.Work.Effects

/-!
# What filling a realm puts into it

Filled at a conforming provider, a new realm has two roles and five clients: the one that manages it
and the four of the plan. The user behind the module client has the system role, and the permission
to act as any user is bound to one policy, which is for the impersonation client. Names are told
apart, so nothing takes the place of anything else. Whatever goes wrong on the way, no other realm is
touched.
-/

namespace Tenancy.Realm

open Provider Work

variable {realm : String} {c : Contents}

/-! ## Creations -/

theorem createRole_turns {role : Wire.Role} (new : role.name ∉ c.roles.map (·.name)) :
    Turns realm c (Work.create role (Facility.call (.createRole realm role))) fun id c' =>
      c' = { c with roles := c.roles ++ [{ role with id := some id }] } := by
  refine .mono (.create fun w t => .call w (.createRole realm role) t)
    fun id c' made => ?_
  have placed : Contents.place Wire.Role.name { role with id := some id } c.roles =
    c.roles ++ [{ role with id := some id }] := Contents.place_new new
  rw [made, placed]

theorem createClient_turns {client : Wire.Client}
    (new : client.clientId ∉ c.clients.map (·.client.clientId)) :
    Turns realm c (Work.create client (Facility.call (.createClient realm client))) fun id c' =>
      id ∉ c.clients.map Member.id ∧
        ∃ user, c' = { c with clients := c.clients ++ [⟨id, client, user⟩] } := by
  refine .mono (.create fun w t => .call w (.createClient realm client) t)
    fun id c' ⟨fresh, user, made⟩ => ⟨fresh, user, ?_⟩
  have placed : Contents.place (fun m : Member => m.client.clientId) ⟨id, client, user⟩ c.clients =
    c.clients ++ [⟨id, client, user⟩] := Contents.place_new new
  rw [made, placed]

theorem createPolicy_turns {server : String} {policy : Wire.Policy}
    (new : policy.name ∉ c.policies.map (·.name)) :
    Turns realm c (Work.create policy (Facility.call (.createPolicy realm server policy)))
      fun id c' => c' = { c with policies := c.policies ++ [{ policy with id := some id }] } := by
  refine .mono (.create fun w t => .call w (.createPolicy realm server policy) t)
    fun id c' ⟨_, made⟩ => ?_
  have placed : Contents.place Wire.Policy.name { policy with id := some id } c.policies =
    c.policies ++ [{ policy with id := some id }] := Contents.place_new new
  rw [made, placed]

/-! ## Several calls with one token -/

theorem grantRole_turns (client clientId role : String) :
    Turns realm c (Plan.grantRole realm client clientId role) fun _ c' =>
      ∃ m ∈ c.clients, m.id = client ∧ ∃ r, c.roles.find? (fun r => r.name = role) = some r ∧
        c' = { c with grants := c.grants ++ [(m.user, r)] } := by
  refine .calls fun w t => ?_
  refine .bind (.call _ (.serviceAccount realm client) t)
    (fun user w₁ seen => seen_update_iff.mp seen) fun user ⟨m, hm, here, behind⟩ => ?_
  refine .bind (.call _ (.findRole realm role) t)
    (fun found w₁ seen => seen_update_iff.mp seen) fun found named => ?_
  cases found with
  | none => exact .refuse _ _ _
  | some r =>
    refine Attempt.Does.mono (.call _ (.addRoles realm user.id [r]) t) fun _ w' added => ?_
    obtain ⟨c', rfl, rfl⟩ := within_update_iff.mp added
    refine ⟨_, rfl, m, hm, here, r, named.symm, ?_⟩
    rw [behind]
    rfl

theorem withPolicy_eq {policies : List Wire.Policy} {ids : List String}
    (h : policies.filterMap (·.id) = ids) (id : String) :
    Plan.withPolicy policies id = if ids.contains id then ids else ids ++ [id] := by
  unfold Plan.withPolicy
  rw [h]

theorem bindPolicy_turns (server permission policy : String) :
    Turns realm c (Plan.bindPolicy realm server permission policy) fun _ c' =>
      ∃ p, c.permission = some p ∧ c' = { c with permission := some ⟨p.id,
        if p.policies.contains policy then p.policies else p.policies ++ [policy]⟩ } := by
  refine .calls fun w t => ?_
  refine .bind (.call _ (.findPermission realm server permission) t)
    (fun found w₁ seen => seen_update_iff.mp seen) fun found _ => ?_
  refine .bind (.call _ (.findPolicies realm server permission) t)
    (fun policies w₁ seen => seen_update_iff.mp seen) fun policies ⟨_, p, bound, _, listed⟩ => ?_
  refine Attempt.Does.mono (.call _ (.updatePermission realm server _) t) fun _ w' changed => ?_
  obtain ⟨c', rfl, _, q, bound', _, rfl⟩ := within_update_iff.mp changed
  rw [bound] at bound'
  cases bound'
  refine ⟨_, rfl, p, bound, ?_⟩
  rw [← withPolicy_eq listed]
  rfl

/-! ## Clients -/

theorem obtain_turns (keyStart clientId : String) :
    Turns realm c (Secret.obtain keyStart realm clientId) fun _ c' => c' = c := by
  refine .bind (.lift (asked_waits fun _ _ hq => by cases hq)) fun v c' same => ?_
  subst same
  cases v with
  | some secret => exact .pure rfl
  | none =>
    refine .bind (.ask fun _ _ hq => by cases hq) fun n c' same => ?_
    subst same
    exact .bind (.lift (asked_waits fun _ _ hq => by cases hq)) fun _ c' same => .pure same

/-- The roles that the user behind a client is given, out of those of the realm. -/
def ClientPlan.grants (plan : ClientPlan) (roles : List Wire.Role) (m : Member) :
    List (String × Wire.Role) :=
  match plan.serviceAccountRole with
  | none => []
  | some name => (roles.find? fun r => r.name = name).toList.map fun r => (m.user, r)

/-- A client that was created by a plan and given its role. -/
structure Joined (plan : ClientPlan) (c : Contents) (m : Member) (c' : Contents) : Prop where
  client : ∃ secret, m.client = plan.client secret
  contents : c' = { c with
    clients := c.clients ++ [m], grants := c.grants ++ plan.grants c.roles m }

theorem Joined.named {plan : ClientPlan} {m : Member} {c' : Contents} (h : Joined plan c m c') :
    m.client.clientId = plan.clientId := by
  obtain ⟨secret, client⟩ := h.client
  rw [client]
  rfl

theorem Joined.names {plan : ClientPlan} {m : Member} {c' : Contents} {before : List String}
    (h : Joined plan c m c') (names : c.clients.map (·.client.clientId) = before) :
    c'.clients.map (·.client.clientId) = before ++ [plan.clientId] := by
  rw [h.contents, List.map_append, List.map_singleton, h.named, names]

theorem addClient_turns (p : Plan) (plan : ClientPlan)
    (new : plan.clientId ∉ c.clients.map (·.client.clientId)) :
    Turns realm c (p.addClient realm plan) fun v c' =>
      ∃ m, Joined plan c m c' ∧ v = { m.client with id := some m.id } := by
  refine .bind (obtain_turns _ _) fun secret c' same => ?_
  subst same
  refine .bind (createClient_turns new) fun id c₁ ⟨fresh, user, made⟩ => ?_
  dsimp only
  subst made
  cases role : plan.serviceAccountRole with
  | none =>
    refine .pure ⟨⟨id, plan.client secret, user⟩, ⟨⟨secret, rfl⟩, ?_⟩, rfl⟩
    unfold ClientPlan.grants
    rw [role, List.append_nil]
  | some name =>
    refine .bind (grantRole_turns id _ name) fun _ c' ⟨m, hm, here, r, found, granted⟩ => ?_
    -- The id is new, so the user who was given the role is the one behind the new client.
    have same : m = ⟨id, plan.client secret, user⟩ := by
      rcases List.mem_append.mp hm with old | last
      · exact (fresh (List.mem_map.mpr ⟨m, old, here⟩)).elim
      · exact List.mem_singleton.mp last
    refine .pure ⟨⟨id, plan.client secret, user⟩, ⟨⟨secret, rfl⟩, ?_⟩, rfl⟩
    unfold ClientPlan.grants
    rw [granted, same, role]
    dsimp only
    rw [found]
    rfl

theorem addModuleClient_turns (p : Plan)
    (new : p.clients.moduleClientId ∉ c.clients.map (·.client.clientId)) :
    Turns realm c (p.addModuleClient realm) fun _ c' =>
      ∃ now m, Joined (.forModules p.clients now) c m c' := by
  refine .bind (.ask fun _ _ hq => by cases hq) fun now c' same => ?_
  subst same
  exact .mono (addClient_turns p (.forModules p.clients now) new)
    fun v c' ⟨m, joined, _⟩ => ⟨now, m, joined⟩

theorem addLoginClient_turns (p : Plan)
    (new : p.clients.loginClientIdFor realm ∉ c.clients.map (·.client.clientId)) :
    Turns realm c (p.addLoginClient realm) fun _ c' =>
      ∃ now m, Joined (.forLogin p.clients realm now) c m c' := by
  refine .bind (.ask fun _ _ hq => by cases hq) fun now c' same => ?_
  subst same
  exact .mono (addClient_turns p (.forLogin p.clients realm now) new)
    fun v c' ⟨m, joined, _⟩ => ⟨now, m, joined⟩

theorem findMapper_turns (name : String) :
    Turns realm c (Plan.findMapper name) fun mapper c' => c' = c ∧ mapper.name = name := by
  refine .bind (.call fun succeeds => ⟨c, succeeds, rfl⟩) fun info c' same => ?_
  subst same
  dsimp only
  split
  · next m found =>
    exact .pure ⟨rfl, beq_iff_eq.mp (List.find?_eq_some_iff_append.mp found).1⟩
  · exact .throw _ _

theorem addPasswordResetClient_turns (p : Plan)
    (new : p.clients.passwordResetClientId ∉ c.clients.map (·.client.clientId)) :
    Turns realm c (p.addPasswordResetClient realm) fun _ c' =>
      ∃ mapper now m, mapper.name = p.clients.passwordResetMapper ∧
        Joined (.forPasswordReset p.clients mapper now) c m c' := by
  refine .bind (findMapper_turns _) fun mapper c' ⟨same, named⟩ => ?_
  subst same
  refine .bind (.ask fun _ _ hq => by cases hq) fun now c' same => ?_
  subst same
  exact .mono (addClient_turns p (.forPasswordReset p.clients mapper now) new)
    fun v c' ⟨m, joined, _⟩ => ⟨mapper, now, m, named, joined⟩

/-! ## Impersonation -/

theorem findManagement_turns :
    Turns realm c (Plan.findManagement realm) fun _ c' => c' = c := by
  refine .bind (.look fun seen => seen) fun found c' ⟨same, _⟩ => ?_
  match (found : List Wire.Client) with
  | [] => exact .throw _ _
  | [_] => exact .pure same
  | _ :: _ :: _ => exact .throw _ _

theorem enablePermissions_turns (context : String) (off : c.permission = none) :
    Turns realm c (Work.call context (.enablePermissions realm)) fun enabled c' =>
      ∃ id, (enabled : Wire.PermissionReference).scopePermissions.get? impersonateScope = some id ∧
        c' = { c with permission := some ⟨id, []⟩ } := by
  refine .call fun succeeds => ?_
  obtain ⟨c', rfl, p, fresh, named, rfl⟩ := within_update_iff.mp succeeds
  rw [off] at fresh
  refine ⟨_, rfl, p.id, named, ?_⟩
  rw [fresh]
  rfl

theorem grantImpersonation_turns {client : Wire.Client} {uuid : String}
    (known : client.id = some uuid) (off : c.permission = none)
    (new : (Plan.impersonationPolicy client.clientId uuid).name ∉ c.policies.map (·.name)) :
    Turns realm c (Plan.grantImpersonation realm client) fun _ c' =>
      ∃ permission policy, c' = { c with
        policies := c.policies ++
          [{ Plan.impersonationPolicy client.clientId uuid with id := some policy }]
        permission := some ⟨permission, [policy]⟩ } := by
  unfold Plan.grantImpersonation
  rw [known]
  refine .bind findManagement_turns fun management c' same => ?_
  subst same
  cases management.id with
  | none => exact .throw _ _
  | some server =>
    refine .bind (enablePermissions_turns _ off) fun enabled c₁ ⟨permission, named, on⟩ => ?_
    dsimp only
    rw [named]
    refine .bind (createPolicy_turns ?_) fun policy c₂ made => ?_
    · rw [on]
      exact new
    · refine .mono (bindPolicy_turns server permission policy) fun _ c' ⟨p, bound, updated⟩ => ?_
      rw [made, on] at bound
      cases bound
      refine ⟨permission, policy, ?_⟩
      rw [updated, made, on]
      rfl

theorem addImpersonationClient_turns (p : Plan)
    (new : p.clients.impersonationClientId ∉ c.clients.map (·.client.clientId))
    (off : c.permission = none) (bare : c.policies = []) :
    Turns realm c (p.addImpersonationClient realm) fun _ c' =>
      ∃ now m c₁ permission policy, Joined (.forImpersonation p.clients now) c m c₁ ∧
        c' = { c₁ with
          policies := [{ Plan.impersonationPolicy p.clients.impersonationClientId m.id with
            id := some policy }]
          permission := some ⟨permission, [policy]⟩ } := by
  refine .bind (.ask fun _ _ hq => by cases hq) fun now c' same => ?_
  subst same
  refine .bind (addClient_turns p (.forImpersonation p.clients now) new)
    fun v c₁ ⟨m, joined, made⟩ => ?_
  have known : v.id = some m.id := by rw [made]
  have named : v.clientId = p.clients.impersonationClientId := by
    rw [made]
    exact joined.named
  refine .bind (grantImpersonation_turns known ?_ ?_) fun _ c' ⟨permission, policy, granted⟩ => ?_
  · rw [joined.contents]
    exact off
  · rw [joined.contents, bare]
    exact List.not_mem_nil
  · refine .pure ⟨now, m, c₁, permission, policy, joined, ?_⟩
    rw [granted, named, joined.contents, bare]
    rfl

/-! ## Filling -/

/-- What a plan names within a realm has names of its own. -/
structure Plan.Apart (p : Plan) (realm : String) : Prop where
  roles : p.clients.systemRole ≠ p.clients.passwordResetRole
  clients : [managementClient, p.clients.moduleClientId, p.clients.loginClientIdFor realm,
    p.clients.impersonationClientId, p.clients.passwordResetClientId].Nodup

structure Furniture where
  system : Wire.Role
  passwordReset : Wire.Role
  management : Member
  modules : Member
  login : Member
  impersonation : Member
  resetting : Member
  /-- The ids of the policy for the impersonation client and of the permission to act as any user. -/
  policy : String
  permission : String

namespace Furniture

/-- Roles and clients are those of the plan; which ids, users, secrets and times went into them is
not up to it. -/
structure Fits (f : Furniture) (p : Plan) (realm : String) : Prop where
  system : ∃ id,
    f.system = ⟨some id, p.clients.systemRole, some "Role of module service accounts"⟩
  passwordReset : ∃ id,
    f.passwordReset = ⟨some id, p.clients.passwordResetRole, some "Allows resetting user passwords"⟩
  management : f.management.client.clientId = managementClient
  modules : ∃ now secret, f.modules.client = (ClientPlan.forModules p.clients now).client secret
  login : ∃ now secret, f.login.client = (ClientPlan.forLogin p.clients realm now).client secret
  impersonation : ∃ now secret,
    f.impersonation.client = (ClientPlan.forImpersonation p.clients now).client secret
  resetting : ∃ mapper now secret, mapper.name = p.clients.passwordResetMapper ∧
    f.resetting.client = (ClientPlan.forPasswordReset p.clients mapper now).client secret

/-- The contents of a realm that is filled. -/
def contents (f : Furniture) (settings : Wire.Realm) : Contents where
  settings := settings
  roles := [f.system, f.passwordReset]
  clients := [f.management, f.modules, f.login, f.impersonation, f.resetting]
  grants := [(f.modules.user, f.system)]
  policies :=
    [{ Plan.impersonationPolicy f.impersonation.client.clientId f.impersonation.id with
      id := some f.policy }]
  permission := some ⟨f.permission, [f.policy]⟩

end Furniture

theorem addRole_turns {name description : String} (new : name ∉ c.roles.map (·.name)) :
    Turns realm c (Plan.addRole realm name description) fun _ c' =>
      ∃ id, c' = { c with roles := c.roles ++ [⟨some id, name, some description⟩] } :=
  .bind (createRole_turns new) fun id _ made => .pure ⟨id, made⟩

theorem addRoles_turns {p : Plan} (apart : p.clients.systemRole ≠ p.clients.passwordResetRole)
    (bare : c.roles = []) :
    Turns realm c (p.addRoles realm) fun _ c' => ∃ i j, c' = { c with roles :=
      [⟨some i, p.clients.systemRole, some "Role of module service accounts"⟩,
       ⟨some j, p.clients.passwordResetRole, some "Allows resetting user passwords"⟩] } := by
  refine .bind (addRole_turns ?_) fun _ c₁ ⟨i, made⟩ => ?_
  · rw [bare]
    exact List.not_mem_nil
  · subst made
    refine .bind (addRole_turns ?_) fun _ c₂ ⟨j, made⟩ => .pure ⟨i, j, ?_⟩
    · simp [bare, apart.symm]
    · rw [made, bare]
      rfl

theorem new_of_apart {before after : List String} {name : String}
    (apart : (before ++ name :: after).Nodup) : name ∉ before :=
  fun taken => (List.nodup_append.mp apart).2.2 name taken name List.mem_cons_self rfl

/-- Filling a new realm furnishes it. -/
theorem fill_turns {p : Plan} (apart : p.Apart realm) {management : Member}
    (manages : management.client.clientId = managementClient) (settings : Wire.Realm) :
    Turns realm (.new settings management) (p.fill realm) fun _ c' =>
      ∃ f : Furniture, f.Fits p realm ∧ c' = f.contents settings := by
  refine .bind (addRoles_turns apart.roles rfl) fun _ c₁ ⟨i, j, roles⟩ => ?_
  have names₁ : c₁.clients.map (·.client.clientId) = [managementClient] := by
    rw [roles]
    exact congrArg (fun name => [name]) manages
  refine .bind (addModuleClient_turns p ?_) fun _ c₂ ⟨now₁, modules, joined₁⟩ => ?_
  · rw [names₁]
    exact new_of_apart apart.clients
  have names₂ := joined₁.names names₁
  refine .bind (addLoginClient_turns p ?_) fun _ c₃ ⟨now₂, login, joined₂⟩ => ?_
  · rw [names₂]
    exact new_of_apart apart.clients
  have names₃ := joined₂.names names₂
  refine .bind (addImpersonationClient_turns p ?_ ?_ ?_)
    fun _ c₅ ⟨now₃, impersonation, c₄, permission, policy, joined₃, granted⟩ => ?_
  · rw [names₃]
    exact new_of_apart apart.clients
  · rw [joined₂.contents, joined₁.contents, roles]
    rfl
  · rw [joined₂.contents, joined₁.contents, roles]
    rfl
  have names₄ := joined₃.names names₃
  refine .bind (addPasswordResetClient_turns p ?_)
    fun _ c₆ ⟨mapper, now₄, resetting, mapped, joined₄⟩ => ?_
  · rw [granted]
    show _ ∉ c₄.clients.map (·.client.clientId)
    rw [names₄]
    exact new_of_apart apart.clients
  have system : (ClientPlan.forModules p.clients now₁).grants c₁.roles modules =
      [(modules.user, ⟨some i, p.clients.systemRole, some "Role of module service accounts"⟩)] := by
    rw [roles]
    simp [ClientPlan.grants, ClientPlan.forModules]
  refine .pure ⟨⟨_, _, management, modules, login, impersonation, resetting, policy, permission⟩,
    ⟨⟨i, rfl⟩, ⟨j, rfl⟩, manages, ?_, ?_, ?_, ?_⟩, ?_⟩
  · obtain ⟨secret, client⟩ := joined₁.client
    exact ⟨now₁, secret, client⟩
  · obtain ⟨secret, client⟩ := joined₂.client
    exact ⟨now₂, secret, client⟩
  · obtain ⟨secret, client⟩ := joined₃.client
    exact ⟨now₃, secret, client⟩
  · obtain ⟨secret, client⟩ := joined₄.client
    exact ⟨mapper, now₄, secret, mapped, client⟩
  · unfold Furniture.contents
    rw [joined₄.contents, granted, joined₃.contents, joined₂.contents, joined₁.contents, system,
      roles, joined₃.named]
    rfl

end Tenancy.Realm
