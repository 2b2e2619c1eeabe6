import Tenancy.Proofs.Json.Reading
import Tenancy.Proofs.Realm.Atomicity
import Tenancy.Proofs.Secret.Isolation
import Tenancy.Proofs.Work.Past

/-!
# Nothing is named that is not there

Whatever establishing a realm names has been made or found before, in the same run: the role that is
looked up, the roles in the settings of the login client, which stand there as JSON texts, and the
things that the provider gave ids to. An id goes only where the thing belongs that it was given to,
and all of it stays in the realm of the tenant.
-/

namespace Tenancy.Realm

open Provider Work Session
open Secret (PlanOf)

/-! ## What was told before -/

/-- The provider answered the call so. -/
def Told (past : List Facility.Event) (c : Call) (v : c.Answer) : Prop :=
  ∃ t, ⟨.call t c, .ok v⟩ ∈ past

/-- The provider accepted what was to be created, and gave it an id. -/
inductive Made (past : List Facility.Event) : Creation → String → Prop
  | realm {realm : Wire.Realm} {receipt : Receipt} {id : String}
      (told : Told past (.createRealm realm) receipt) (success : receipt.status.isSuccess = true)
      (carried : receipt.id? = some id) : Made past (.realm realm) id
  | role {realm : String} {role : Wire.Role} {receipt : Receipt} {id : String}
      (told : Told past (.createRole realm role) receipt) (success : receipt.status.isSuccess = true)
      (carried : receipt.id? = some id) : Made past (.role realm role) id
  | client {realm : String} {client : Wire.Client} {receipt : Receipt} {id : String}
      (told : Told past (.createClient realm client) receipt)
      (success : receipt.status.isSuccess = true) (carried : receipt.id? = some id) :
      Made past (.client realm client) id
  | policy {realm server : String} {policy : Wire.Policy} {receipt : Receipt} {id : String}
      (told : Told past (.createPolicy realm server policy) receipt)
      (success : receipt.status.isSuccess = true) (carried : receipt.id? = some id) :
      Made past (.policy realm server policy) id

/-- A role of this name was made in the realm. -/
def RoleMade (past : List Facility.Event) (realm name : String) : Prop :=
  ∃ role id, role.name = name ∧ Made past (.role realm role) id

/-- The id of the one client that manages a realm, as it was found. -/
def Manages (past : List Facility.Event) (realm server : String) : Prop :=
  ∃ client : Wire.Client, Told past (.findClients realm managementClient) [client] ∧
    client.id = some server

/-- The id of the permission to act as a user, as it was told. -/
def Permitted (past : List Facility.Event) (realm permission : String) : Prop :=
  ∃ reference : Wire.PermissionReference, Told past (.enablePermissions realm) reference ∧
    reference.scopePermissions.get? impersonateScope = some permission

variable {past past' : List Facility.Event} {realm server permission name id : String}

theorem Told.mono {c : Call} {v : c.Answer} (h : Told past c v) (longer : past <+: past') :
    Told past' c v := by
  obtain ⟨t, he⟩ := h
  exact ⟨t, longer.subset he⟩

theorem Made.mono {c : Creation} (h : Made past c id) (longer : past <+: past') :
    Made past' c id := by
  cases h with
  | realm told success carried => exact .realm (told.mono longer) success carried
  | role told success carried => exact .role (told.mono longer) success carried
  | client told success carried => exact .client (told.mono longer) success carried
  | policy told success carried => exact .policy (told.mono longer) success carried

theorem RoleMade.mono (h : RoleMade past realm name) (longer : past <+: past') :
    RoleMade past' realm name := by
  obtain ⟨role, id, named, made⟩ := h
  exact ⟨role, id, named, made.mono longer⟩

theorem Manages.mono (h : Manages past realm server) (longer : past <+: past') :
    Manages past' realm server := by
  obtain ⟨client, told, same⟩ := h
  exact ⟨client, told.mono longer, same⟩

theorem Permitted.mono (h : Permitted past realm permission) (longer : past <+: past') :
    Permitted past' realm permission := by
  obtain ⟨reference, told, same⟩ := h
  exact ⟨reference, told.mono longer, same⟩

/-! ## The settings of the login client -/

/-- Read as JSON, the text names the role and nothing else. -/
def NamesRole (text role : String) : Prop :=
  Json.Codec.value.readText text = .ok (.arr [.obj [("id", .str role), ("required", .bool false)]])

/-- Read as JSON, the text is the list of the names. -/
def Lists (text : String) (names : List String) : Prop :=
  Json.Codec.value.readText text = .ok (.arr (names.map .str))

theorem rolesText_names (role : String) : NamesRole (ClientPlan.rolesText role) role := by
  have numberless : Json.Numberless (.arr [.obj [("id", .str role), ("required", .bool false)]]) := by
    refine .arr _ fun v hv => ?_
    obtain rfl := List.mem_singleton.mp hv
    refine .obj _ fun m hm => ?_
    rcases List.mem_cons.mp hm with rfl | hm
    · exact .str role
    · obtain rfl := List.mem_singleton.mp hm
      exact .bool false
  have after : ¬ "required" < "id" := by decide
  rw [NamesRole, ClientPlan.rolesText, Json.readText_compact numberless]
  simp [Json.Doc.ofJson, Json.itemsOfJson, Json.membersOfJson, Json.Doc.toJson, Json.itemsToJson,
    Json.membersToJson, Json.Lexeme.read, Json.guardFlaw, Json.depthLimit, Json.Ending.inObject,
    Json.Ending.inList, bind, Except.bind, Except.map, Dict.insert, Dict.empty, Dict.place, after]
  rfl

theorem itemsToJson_strings (depth : Nat) (names : List String) :
    Json.itemsToJson depth ((names.map Json.str).map Json.Doc.ofJson) = .ok (names.map .str) := by
  induction names with
  | nil => rfl
  | cons name names ih =>
    simp only [List.map_cons, Json.itemsToJson, ih]
    rfl

theorem listText_lists (names : List String) : Lists (ClientPlan.listText names) names := by
  have numberless : Json.Numberless (.arr (names.map .str)) := by
    refine .arr _ fun v hv => ?_
    obtain ⟨name, _, rfl⟩ := List.mem_map.mp hv
    exact .str name
  rw [Lists, ClientPlan.listText, Json.readText_compact numberless, Json.Doc.ofJson,
    Json.itemsOfJson_eq, Json.Doc.toJson, itemsToJson_strings]
  rfl

/-- A policy in a list, with the scopes declared beside the list and the policies before it: a role
policy names a role that is configured and was made, and a permission names what is there. -/
inductive Refers (s : ClientSettings) (past : List Facility.Event) (realm : String)
    (scopes : List Wire.Scope) (before : List Wire.Policy) (p : Wire.Policy) : Prop
  | role {text role : String} (kind : p.kind = "role") (stated : p.config.get? "roles" = some text)
      (names : NamesRole text role) (configured : role = s.systemRole ∨ role = s.passwordResetRole)
      (made : RoleMade past realm role)
  | permission {applied granted : String} {policies verbs : List String} (kind : p.kind = "scope")
      (applies : p.config.get? "applyPolicies" = some applied) (lists : Lists applied policies)
      (present : ∀ name ∈ policies, ∃ q ∈ before, q.name = name)
      (grants : p.config.get? "scopes" = some granted) (lists' : Lists granted verbs)
      (declared : ∀ verb ∈ verbs, ∃ scope ∈ scopes, scope.name = verb)

/-- Nothing in the settings names what is not there. -/
def Coherent (s : ClientSettings) (past : List Facility.Event) (realm : String)
    (a : Wire.Authorization) : Prop :=
  ∀ before p after, a.policies = before ++ p :: after → Refers s past realm a.scopes before p

/-- Both roles were made in the realm. -/
structure Equipped (s : ClientSettings) (past : List Facility.Event) (realm : String) : Prop where
  system : RoleMade past realm s.systemRole
  passwordReset : RoleMade past realm s.passwordResetRole

variable {s : ClientSettings}

theorem Equipped.mono (h : Equipped s past realm) (longer : past <+: past') :
    Equipped s past' realm :=
  ⟨h.system.mono longer, h.passwordReset.mono longer⟩

theorem rolePolicy_refers {role : String} {scopes : List Wire.Scope} {before : List Wire.Policy}
    (configured : role = s.systemRole ∨ role = s.passwordResetRole)
    (made : RoleMade past realm role) :
    Refers s past realm scopes before (ClientPlan.rolePolicy name role) :=
  .role rfl rfl (rolesText_names role) configured made

theorem verbPermission_refers {scopes : List Wire.Scope} {before : List Wire.Policy}
    (present : ∃ q ∈ before, q.name = ClientPlan.systemPolicy)
    (declared : ∀ verb ∈ ClientPlan.verbs, ∃ scope ∈ scopes, scope.name = verb) :
    Refers s past realm scopes before ClientPlan.verbPermission := by
  have applies : ClientPlan.verbPermission.config.get? "applyPolicies" =
      some (ClientPlan.listText [ClientPlan.systemPolicy]) := by decide
  have grants : ClientPlan.verbPermission.config.get? "scopes" =
      some (ClientPlan.listText ClientPlan.verbs) := by decide
  refine .permission rfl applies (listText_lists _) ?_ grants (listText_lists _) declared
  intro name hname
  obtain rfl := List.mem_singleton.mp hname
  exact present

theorem loginAuthorization_coherent (equipped : Equipped s past realm) :
    Coherent s past realm (ClientPlan.loginAuthorization s) := by
  intro before p after place
  have declared : ∀ verb ∈ ClientPlan.verbs,
      ∃ scope ∈ (ClientPlan.loginAuthorization s).scopes, scope.name = verb :=
    fun verb hverb => ⟨⟨none, verb⟩, List.mem_map_of_mem hverb, rfl⟩
  rcases before with _ | ⟨q, _ | ⟨q', _ | ⟨q'', before⟩⟩⟩ <;>
    simp only [ClientPlan.loginAuthorization, List.nil_append, List.cons_append, List.cons.injEq]
      at place
  · obtain ⟨rfl, _⟩ := place
    exact rolePolicy_refers (.inl rfl) equipped.system
  · obtain ⟨_, rfl, _⟩ := place
    exact rolePolicy_refers (.inr rfl) equipped.passwordReset
  · obtain ⟨rfl, _, rfl, _⟩ := place
    exact verbPermission_refers ⟨_, List.mem_cons_self, rfl⟩ declared
  · simp at place

/-! ## What a call may name -/

/-- A client whose service account gets a role, with the id that the client was given. -/
structure Grantee (s : ClientSettings) (past : List Facility.Event) (realm client role : String) :
    Prop where
  named : ∃ plan secret, PlanOf s realm plan ∧ plan.serviceAccountRole = some role ∧
    Made past (.client realm (plan.client secret)) client
  made : RoleMade past realm role

/-- The impersonation client, with the id that it was given. -/
def MayAct (s : ClientSettings) (past : List Facility.Event) (realm client : String) : Prop :=
  ∃ now secret, Made past (.client realm ((ClientPlan.forImpersonation s now).client secret)) client

/-- Where the policy of the impersonation client is bound, by the ids that were told. -/
structure Binding (s : ClientSettings) (past : List Facility.Event)
    (realm server permission policy : String) : Prop where
  manages : Manages past realm server
  permitted : Permitted past realm permission
  made : ∃ client, MayAct s past realm client ∧ Made past
    (.policy realm server (Plan.impersonationPolicy s.impersonationClientId client)) policy

/-- A call of the tenant's own realm that names nothing but what was made or found before. -/
inductive Grounded (d : Design) (t : Tenant) (past : List Facility.Event) : Call → Prop
  | findRealm : Grounded d t past (.findRealm t.name)
  | createRealm {r : Wire.Realm} (own : r.realm = t.name) : Grounded d t past (.createRealm r)
  | deleteRealm : Grounded d t past (.deleteRealm t.name)
  | createRole (role : Wire.Role) : Grounded d t past (.createRole t.name role)
  | createClient {plan : ClientPlan} {secret : String} (planned : PlanOf d.plan.clients t.name plan)
      (coherent : ∀ a, plan.authorizationSettings = some a →
        Coherent d.plan.clients past t.name a) :
      Grounded d t past (.createClient t.name (plan.client secret))
  | serviceAccount {client role : String}
      (grantee : Grantee d.plan.clients past t.name client role) :
      Grounded d t past (.serviceAccount t.name client)
  | findRole {client role : String} (grantee : Grantee d.plan.clients past t.name client role) :
      Grounded d t past (.findRole t.name role)
  -- The user and the role are what the two calls right before have told.
  | addRoles {before : List Facility.Event} {token : Token} {client role : String}
      {user : Wire.User} {found : Wire.Role}
      (grantee : Grantee d.plan.clients past t.name client role)
      (asked : past = before ++ [⟨.call token (.serviceAccount t.name client), .ok user⟩,
        ⟨.call token (.findRole t.name role), .ok (some found)⟩]) :
      Grounded d t past (.addRoles t.name user.id [found])
  | findClients : Grounded d t past (.findClients t.name managementClient)
  | enablePermissions : Grounded d t past (.enablePermissions t.name)
  | createPolicy {server client : String} (manages : Manages past t.name server)
      (acts : MayAct d.plan.clients past t.name client) :
      Grounded d t past (.createPolicy t.name server
        (Plan.impersonationPolicy d.plan.clients.impersonationClientId client))
  | findPermission {server permission policy : String}
      (binding : Binding d.plan.clients past t.name server permission policy) :
      Grounded d t past (.findPermission t.name server permission)
  | findPolicies {server permission policy : String}
      (binding : Binding d.plan.clients past t.name server permission policy) :
      Grounded d t past (.findPolicies t.name server permission)
  -- The permission and its policies are what the two calls right before have told.
  | updatePermission {before : List Facility.Event} {token : Token}
      {server permission policy : String} {found : Wire.Policy} {policies : List Wire.Policy}
      (binding : Binding d.plan.clients past t.name server permission policy)
      (asked : past = before ++ [⟨.call token (.findPermission t.name server permission), .ok found⟩,
        ⟨.call token (.findPolicies t.name server permission), .ok policies⟩]) :
      Grounded d t past (.updatePermission t.name server
        { found with policies := some (Plan.withPolicy policies policy) })
  | serverInfo : Grounded d t past .serverInfo

/-- If the event is a call, it is grounded. -/
def Grounds (d : Design) (t : Tenant) (past : List Facility.Event) (e : Facility.Event) : Prop :=
  ∀ token c, e.query = .call token c → Grounded d t past c

theorem Grantee.mono {client role : String} (h : Grantee s past realm client role)
    (longer : past <+: past') : Grantee s past' realm client role := by
  obtain ⟨⟨plan, secret, planned, grants, made⟩, role⟩ := h
  exact ⟨⟨plan, secret, planned, grants, made.mono longer⟩, role.mono longer⟩

theorem MayAct.mono {client : String} (h : MayAct s past realm client) (longer : past <+: past') :
    MayAct s past' realm client := by
  obtain ⟨now, secret, made⟩ := h
  exact ⟨now, secret, made.mono longer⟩

theorem Binding.mono {policy : String} (h : Binding s past realm server permission policy)
    (longer : past <+: past') : Binding s past' realm server permission policy := by
  obtain ⟨manages, permitted, client, acts, made⟩ := h
  exact ⟨manages.mono longer, permitted.mono longer, client, acts.mono longer, made.mono longer⟩

variable {d : Design} {t : Tenant}

theorem grounds_call {token : Token} {c : Call} (h : Grounded d t past c)
    (a : Except ProviderError c.Answer) : Grounds d t past ⟨.call token c, a⟩ := by
  rintro _ _ ⟨⟩
  exact h

theorem grounds_issue (past : List Facility.Event) (a : Except ProviderError Token) :
    Grounds d t past ⟨.issueToken, a⟩ := by
  intro token c asked
  cases asked

/-- A grounded creation goes well only if the thing was made under the id. -/
theorem creation_heeds (c : Creation)
    (grounded : ∀ past', past <+: past' → Grounded d t past' c.call) :
    Heeds (Grounds d t) past c.work fun id past' => Made past' c id := by
  have attempt (past' : List Facility.Event) (token : Token) (onward : Onward past past') :
      (Attempt.call c.call token).Heeds (Grounds d t) past' fun v past' => Told past' c.call v :=
    (Attempt.Heeds.call (grounds_call (grounded past' onward.prefix))).mono
      fun v past'' same => ⟨token, by simp [same]⟩
  cases c with
  | realm =>
    exact (Heeds.create grounds_issue attempt).mono
      fun _ _ ⟨_, success, carried, told⟩ => .realm told success carried
  | role =>
    exact (Heeds.create grounds_issue attempt).mono
      fun _ _ ⟨_, success, carried, told⟩ => .role told success carried
  | client =>
    exact (Heeds.create grounds_issue attempt).mono
      fun _ _ ⟨_, success, carried, told⟩ => .client told success carried
  | policy =>
    exact (Heeds.create grounds_issue attempt).mono
      fun _ _ ⟨_, success, carried, told⟩ => .policy told success carried

/-! ## The parts of establishing -/

theorem call_heeds {context : String} {c : Call}
    (grounded : ∀ past', past <+: past' → Grounded d t past' c) :
    Heeds (Grounds d t) past (Work.call context c) fun v past' => Told past' c v :=
  Heeds.call grounds_issue fun past' _ a onward => grounds_call (grounded past' onward.prefix) a

theorem now_heeds : Heeds (Grounds d t) past (Work.ask .now) fun _ _ => True :=
  (Heeds.ask fun a token c asked => by cases asked).mono fun _ _ _ => trivial

theorem obtain_heeds (keyStart clientId : String) :
    Heeds (Grounds d t) past (Secret.obtain keyStart realm clientId) fun _ _ => True := by
  refine (Heeds.read fun a token c asked => by cases asked).bind fun found past' _ _ => ?_
  cases found with
  | some secret => exact .pure trivial
  | none =>
    refine (Heeds.ask fun a token c asked => by cases asked).bind fun n past' _ _ => ?_
    refine (Heeds.write fun a token c asked => by cases asked).bind fun _ past' _ _ => ?_
    exact .pure trivial

theorem addRole_heeds (name description : String) :
    Heeds (Grounds d t) past (Plan.addRole t.name name description)
      fun _ past' => RoleMade past' t.name name := by
  refine (creation_heeds (.role t.name ⟨none, name, some description⟩)
    fun _ _ => .createRole _).bind fun id past' _ made => ?_
  exact .pure ⟨_, id, rfl, made⟩

theorem addRoles_heeds : Heeds (Grounds d t) past (d.plan.addRoles t.name)
    fun _ past' => Equipped d.plan.clients past' t.name := by
  refine (addRole_heeds _ _).bind fun _ past₁ _ system => ?_
  refine (addRole_heeds _ _).bind fun _ past₂ longer passwordReset => ?_
  exact .pure ⟨system.mono longer, passwordReset⟩

theorem grantRole_heeds {client clientId role : String}
    (grantee : Grantee d.plan.clients past t.name client role) :
    Heeds (Grounds d t) past (Plan.grantRole t.name client clientId role) fun _ _ => True := by
  refine Heeds.calls grounds_issue fun past' token onward => ?_
  have here := grantee.mono onward.prefix
  refine (Attempt.Heeds.call (grounds_call (.serviceAccount here))).bind
    fun user past₁ longer₁ same₁ => ?_
  refine (Attempt.Heeds.call (grounds_call (.findRole (here.mono longer₁)))).bind
    fun found past₂ longer₂ same₂ => ?_
  cases found with
  | none => exact .refuse _ _
  | some found =>
    have there := (here.mono longer₁).mono longer₂
    rw [same₁, List.append_assoc] at same₂
    exact (Attempt.Heeds.call (grounds_call (.addRoles there same₂))).mono fun _ _ _ => trivial

theorem serviceAccountRole_eq {plan : ClientPlan} {role : String}
    (planned : PlanOf s realm plan) (grants : plan.serviceAccountRole = some role) :
    role = s.systemRole := by
  cases planned <;> cases grants
  rfl

theorem authorizationSettings_eq {plan : ClientPlan} {a : Wire.Authorization}
    (planned : PlanOf s realm plan) (settings : plan.authorizationSettings = some a) :
    a = ClientPlan.loginAuthorization s := by
  cases planned <;> cases settings
  rfl

/-- The client as it was created, with its id. -/
def Added (past : List Facility.Event) (realm : String) (plan : ClientPlan) (client : Wire.Client) :
    Prop :=
  ∃ secret id, client = { plan.client secret with id := some id } ∧
    Made past (.client realm (plan.client secret)) id

theorem addClient_heeds {plan : ClientPlan} (planned : PlanOf d.plan.clients t.name plan)
    (equipped : Equipped d.plan.clients past t.name) :
    Heeds (Grounds d t) past (d.plan.addClient t.name plan)
      fun client past' => Added past' t.name plan client := by
  refine (obtain_heeds _ _).bind fun secret past₁ longer₁ _ => ?_
  refine (creation_heeds (.client t.name (plan.client secret)) fun past' longer' => ?_).bind
    fun id past₂ longer₂ made => ?_
  · refine .createClient planned fun a settings => ?_
    rw [authorizationSettings_eq planned settings]
    exact loginAuthorization_coherent ((equipped.mono longer₁).mono longer')
  have added (past' : List Facility.Event) (longer : past₂ <+: past') :
      Added past' t.name plan { plan.client secret with id := some id } :=
    ⟨secret, id, rfl, made.mono longer⟩
  dsimp only
  cases grants : plan.serviceAccountRole with
  | none => exact .pure (added _ (List.prefix_refl _))
  | some role =>
    obtain rfl := serviceAccountRole_eq planned grants
    have system := (equipped.mono (longer₁.trans longer₂)).system
    refine (grantRole_heeds ⟨⟨plan, secret, planned, grants, made⟩, system⟩).bind
      fun _ past₃ longer₃ _ => ?_
    exact .pure (added _ longer₃)

theorem findManagement_heeds : Heeds (Grounds d t) past (Plan.findManagement t.name)
    fun client past' => Told past' (.findClients t.name managementClient) [client] := by
  refine (call_heeds fun _ _ => .findClients).bind fun found past' _ told => ?_
  match (found : List Wire.Client), told with
  | [], _ => exact .throw _ _
  | [client], told => exact .pure told
  | _ :: _ :: _, _ => exact .throw _ _

theorem bindPolicy_heeds {policy : String}
    (binding : Binding d.plan.clients past t.name server permission policy) :
    Heeds (Grounds d t) past (Plan.bindPolicy t.name server permission policy)
      fun _ _ => True := by
  refine Heeds.calls grounds_issue fun past' token onward => ?_
  have here := binding.mono onward.prefix
  refine (Attempt.Heeds.call (grounds_call (.findPermission here))).bind
    fun found past₁ longer₁ same₁ => ?_
  refine (Attempt.Heeds.call (grounds_call (.findPolicies (here.mono longer₁)))).bind
    fun policies past₂ longer₂ same₂ => ?_
  have there := (here.mono longer₁).mono longer₂
  rw [same₁, List.append_assoc] at same₂
  exact (Attempt.Heeds.call (grounds_call (.updatePermission there same₂))).mono fun _ _ _ => trivial

theorem grantImpersonation_heeds {client : Wire.Client} {now : Nat}
    (added : Added past t.name (.forImpersonation d.plan.clients now) client) :
    Heeds (Grounds d t) past (Plan.grantImpersonation t.name client) fun _ _ => True := by
  obtain ⟨secret, id, rfl, made⟩ := added
  have acts : MayAct d.plan.clients past t.name id := ⟨now, secret, made⟩
  refine findManagement_heeds.bind fun management past₁ longer₁ found => ?_
  cases same : management.id with
  | none => exact .throw _ _
  | some server =>
    have manages : Manages past₁ t.name server := ⟨management, found, same⟩
    refine (call_heeds fun _ _ => .enablePermissions).bind fun reference past₂ longer₂ told => ?_
    dsimp only
    split
    case h_2 => exact .throw _ _
    case h_1 permission stated =>
      have permitted : Permitted past₂ t.name permission := ⟨reference, told, stated⟩
      refine (creation_heeds (.policy t.name server _) fun past' longer' => ?_).bind
        fun policy past₃ longer₃ made => ?_
      · have longer := longer₂.trans longer'
        exact .createPolicy (manages.mono longer) (acts.mono (longer₁.trans longer))
      · have longer := longer₂.trans longer₃
        exact bindPolicy_heeds ⟨manages.mono longer, permitted.mono longer₃, id,
          acts.mono (longer₁.trans longer), made⟩

theorem findMapper_heeds (name : String) :
    Heeds (Grounds d t) past (Plan.findMapper name) fun _ _ => True := by
  refine (call_heeds fun _ _ => .serverInfo).bind fun info past' _ _ => ?_
  dsimp only
  split
  · exact .pure trivial
  · exact .throw _ _

section Filling

variable (equipped : Equipped d.plan.clients past t.name)
include equipped

theorem addModuleClient_heeds :
    Heeds (Grounds d t) past (d.plan.addModuleClient t.name) fun _ _ => True :=
  now_heeds.bind fun now _ longer _ =>
    (addClient_heeds (.modules now) (equipped.mono longer)).mono fun _ _ _ => trivial

theorem addLoginClient_heeds :
    Heeds (Grounds d t) past (d.plan.addLoginClient t.name) fun _ _ => True :=
  now_heeds.bind fun now _ longer _ =>
    (addClient_heeds (.login now) (equipped.mono longer)).mono fun _ _ _ => trivial

theorem addImpersonationClient_heeds :
    Heeds (Grounds d t) past (d.plan.addImpersonationClient t.name) fun _ _ => True := by
  refine now_heeds.bind fun now _ longer _ => ?_
  refine (addClient_heeds (.impersonation now) (equipped.mono longer)).bind
    fun client _ _ added => ?_
  exact (grantImpersonation_heeds added).bind fun _ _ _ _ => .pure trivial

theorem addPasswordResetClient_heeds :
    Heeds (Grounds d t) past (d.plan.addPasswordResetClient t.name) fun _ _ => True := by
  refine (findMapper_heeds _).bind fun mapper _ longer₁ _ => ?_
  refine now_heeds.bind fun now _ longer₂ _ => ?_
  exact (addClient_heeds (.passwordReset mapper now)
    (equipped.mono (longer₁.trans longer₂))).mono fun _ _ _ => trivial

end Filling

theorem fill_heeds : Heeds (Grounds d t) past (d.plan.fill t.name) fun _ _ => True := by
  refine addRoles_heeds.bind fun _ past₁ _ equipped₁ => ?_
  refine (addModuleClient_heeds equipped₁).bind fun _ past₂ longer₂ _ => ?_
  have equipped₂ := equipped₁.mono longer₂
  refine (addLoginClient_heeds equipped₂).bind fun _ past₃ longer₃ _ => ?_
  have equipped₃ := equipped₂.mono longer₃
  refine (addImpersonationClient_heeds equipped₃).bind fun _ past₄ longer₄ _ => ?_
  have equipped₄ := equipped₃.mono longer₄
  exact (addPasswordResetClient_heeds equipped₄).bind fun _ _ _ _ => .pure trivial

/-- Whatever the provider answers, each call of a run in which a realm is established is grounded in
what was told before it in the same run. -/
theorem establish_grounded (d : Design) (t : Tenant) {slot slot' : TokenSlot}
    {es : List Facility.Event} {r : Except Fault Wire.Realm}
    (run : (d.establish t).Runs slot es r slot') :
    ∀ before token c a after, es = before ++ ⟨.call token c, a⟩ :: after →
      Grounded d t before c := by
  have looks : Heeds (Grounds d t) [] (lookup t.name) fun _ _ => True :=
    (call_heeds fun _ _ => .findRealm).mono fun _ _ _ => trivial
  have follows : Follows (Grounds d t) [] es := by
    refine establish_follows looks (fun past id _ => ?_) (fun past _ => fill_heeds)
      (fun past => ?_) run
    · exact (creation_heeds (.realm _) fun _ _ => .createRealm rfl).mono fun _ _ _ => trivial
    · exact (call_heeds fun _ _ => .deleteRealm).mono fun _ _ _ => trivial
  rintro before token c a after rfl
  exact follows.at token c rfl

theorem furnishing_grounded :
    (usual.establish acme).Runs ⟨some "t"⟩ furnishingEvents (.ok acmeRealm) ⟨some "t"⟩ ∧
    Grounded usual acme (furnishingEvents.take 9) (.addRoles "acme" "u3" [acmeFurniture.system]) ∧
    Grounded usual acme (furnishingEvents.take 12)
      (.createClient "acme" acmeFurniture.login.client) := by
  have grounded := establish_grounded usual acme furnishing_runs
  exact ⟨furnishing_runs, grounded _ "t" _ (.ok ()) (furnishingEvents.drop 10) rfl,
    grounded _ "t" _ (.ok (.created "4")) (furnishingEvents.drop 13) rfl⟩

end Tenancy.Realm
