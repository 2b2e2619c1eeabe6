import Tenancy.Proofs.Realm.Furnishing
import Tenancy.Proofs.Realm.Orphan

/-!
# All or nothing

At a conforming provider, establishing a realm either leaves everything as it was or adds the one
realm with all that belongs into it. In between there may be faults at any call, rejected tokens, and
a secret store that fails; what is half done is taken back by the removal. Only a removal that fails
leaves a realm behind, and even then no other realm is touched.
-/

namespace Tenancy.Realm

open Function (update)
open Provider Work Session

variable {d : Design} {t : Tenant} {slot slot' : TokenSlot} {es : List Facility.Event}
  {w w' : World}

/-! ## The parts of establishing -/

theorem created_whole {realm : Wire.Realm} {r : Except Fault String}
    (run : (Creation.realm realm).work.Runs slot es r slot') (conforms : Conforms w es w') :
    Whole w (fun _ w' => w realm.realm = none ∧
      ∃ management : Member, management.client.clientId = managementClient ∧
        w' = update w realm.realm (some (.new realm management))) r w' :=
  create_whole (fun t => .call w (.createRealm realm) t) run conforms

/-- A realm was created: the provider accepted the call. -/
def Accepted (es : List Facility.Event) : Prop :=
  ∃ (token : Token) (realm : Wire.Realm) (receipt : Receipt),
    ⟨.call token (.createRealm realm), .ok receipt⟩ ∈ es ∧ receipt.status.isSuccess = true

/-- A realm was removed: the provider said so. -/
def Removed (name : String) (es : List Facility.Event) : Prop :=
  ∃ (token : Token) (found : Bool), ⟨.call token (.deleteRealm name), .ok found⟩ ∈ es

theorem created_accepted {realm : Wire.Realm} {id : String}
    (run : (Creation.realm realm).work.Runs slot es (.ok id) slot') : Accepted es := by
  obtain ⟨a, accessed, decided⟩ := runs_create run
  cases a with
  | error f => cases decided
  | ok receipt =>
    have called : ∃ token, ⟨.call token (.createRealm realm), .ok receipt⟩ ∈ es :=
      (accessed_ok_iff accessed receipt).mp rfl
    obtain ⟨token, he⟩ := called
    exact ⟨token, realm, receipt, he, (Receipt.outcome_ok_iff.mp ⟨id, decided.symm⟩).1⟩

theorem removed_ok {name : String} {r : Except Fault Bool}
    (run : (remove name).Runs slot es r slot') (removed : Removed name es) :
    ∃ found, r = .ok found := by
  obtain ⟨token, found, he⟩ := removed
  exact ⟨found, (accessed_ok_iff (Runs.of_access run) found).mpr ⟨token, he⟩⟩

theorem removal_elsewhere {realm name : String} {r : Except Fault Bool}
    (run : (remove realm).Runs slot es r slot') (conforms : Conforms w es w') (other : name ≠ realm) :
    w' name = w name := by
  have whole : Whole w (Succeeds w (.deleteRealm realm)) r w' := call_whole run conforms
  cases r with
  | ok found =>
    obtain ⟨_, rfl⟩ := whole
    exact Function.update_of_ne other _ _
  | error f =>
    obtain rfl : w' = w := whole
    rfl

theorem removed_later {es' : List Facility.Event} {name : String} (before : ∀ e ∈ es, ¬ Removes e)
    (removed : Removed name (es ++ es')) : Removed name es' := by
  obtain ⟨token, found, he⟩ := removed
  rcases List.mem_append.mp he with he | he
  · exact (before _ he ⟨token, name, rfl⟩).elim
  · exact ⟨token, found, he⟩

theorem run_spares {s : Step} {r : Except Fault s.Result} (spares : Spares s)
    (run : s.work.Runs slot es r slot') : ∀ e ∈ es, ¬ Removes e := by
  rintro e he ⟨token, name, asked⟩
  exact spares name (step_makes run he asked)

theorem filling_spares {r : Except Fault Unit}
    (run : (d.plan.fill t.name).Runs slot es r slot') : ∀ e ∈ es, ¬ Removes e := by
  obtain ⟨later, logged, rfl, fills⟩ := (fill_loggable d.plan t.name).log run
  exact trace_spares logged fun s hs => (fills s hs).spares

/-! ## One realm -/

/-- A realm that exists is left alone. A failure that made no realm, or whose realm was removed, has
no effect. A success adds the realm of the tenant, furnished, where there was none. No other realm is
touched. -/
structure AllOrNothing (d : Design) (t : Tenant) (w : World) (es : List Facility.Event)
    (r : Except Fault Wire.Realm) (w' : World) : Prop where
  existing : w t.name ≠ none → w' = w
  failed : ∀ f, r = .error f → ¬ Accepted es ∨ Removed t.name es → w' = w
  made : ∀ v, r = .ok v → w t.name = none →
    ∃ id, eligible t = .ok id ∧ v = d.blueprint.realm d.lifetimes id t ∧
      ∃ f : Furniture, f.Fits d.plan t.name ∧ w' = update w t.name (some (f.contents v))
  others : ∀ name, name ≠ t.name → w' name = w name

theorem AllOrNothing.unchanged {r : Except Fault Wire.Realm}
    (known : ∀ v, r = .ok v → w t.name ≠ none) : AllOrNothing d t w es r w where
  existing _ := rfl
  failed _ _ _ := rfl
  made v hv absent := (known v hv absent).elim
  others _ _ := rfl

theorem absent_of_looked {es₁ : List Facility.Event} {found : Option Wire.Realm} {w₁ : World}
    (looked : (lookup t.name).Runs slot es₁ (.ok found) slot') (conforms : Conforms w es₁ w₁) :
    w₁ = w ∧ (found = none ↔ w t.name = none) := by
  obtain ⟨same, rfl⟩ : found.isSome = (w t.name).isSome ∧ w₁ = w := call_whole looked conforms
  refine ⟨rfl, ?_⟩
  rw [← Option.isNone_iff_eq_none, ← Option.isNone_iff_eq_none, ← Option.not_isSome,
    ← Option.not_isSome, same]

theorem establish_atomic (d : Design) (apart : d.plan.Apart t.name) {r : Except Fault Wire.Realm}
    (run : (d.establish t).Runs slot es r slot') (conforms : Conforms w es w') :
    AllOrNothing d t w es r w' := by
  cases runs_establish run with
  | ineligible checked =>
    obtain rfl := conforms.of_nil
    exact .unchanged fun v hv => by cases hv
  | unseen checked looked =>
    obtain rfl : w' = w := call_whole looked conforms
    exact .unchanged fun v hv => by cases hv
  | found checked looked =>
    obtain ⟨rfl, iff⟩ := absent_of_looked looked conforms
    exact .unchanged fun v hv absent => by cases iff.mpr absent
  | uncreated checked looked created =>
    obtain ⟨w₁, before, after⟩ := conforms.of_append
    obtain ⟨rfl, _⟩ := absent_of_looked looked before
    obtain rfl : w' = w₁ := created_whole created after
    exact .unchanged fun v hv => by cases hv
  | filled checked looked created filled =>
    obtain ⟨w₁, before, after⟩ := conforms.of_append
    obtain ⟨rfl, iff⟩ := absent_of_looked looked before
    obtain ⟨w₂, between, rest⟩ := after.of_append
    obtain ⟨absent, management, manages, rfl⟩ := created_whole created between
    obtain ⟨c, rfl, furnished⟩ := fill_turns apart manages _ filled rest
    obtain ⟨f, fits, rfl⟩ := furnished () rfl
    refine ⟨fun present => (present absent).elim, fun f hf => (by cases hf), fun v hv _ => ?_, ?_⟩
    · cases hv
      exact ⟨_, checked, rfl, f, fits, rfl⟩
    · exact fun name other => Function.update_of_ne other _ _
  | removed checked looked created failed removal =>
    obtain ⟨w₁, before, after⟩ := conforms.of_append
    obtain ⟨rfl, _⟩ := absent_of_looked looked before
    obtain ⟨w₂, between, rest⟩ := after.of_append
    obtain ⟨absent, management, manages, rfl⟩ := created_whole created between
    obtain ⟨w₃, inside, last⟩ := rest.of_append
    obtain ⟨c, rfl, _⟩ := fill_turns apart manages _ failed inside
    refine ⟨fun present => (present absent).elim, fun f hf clean => ?_,
      fun v hv => (by cases hv), fun name other => ?_⟩
    · rcases clean with unmade | removed
      · obtain ⟨token, realm, receipt, he, success⟩ := created_accepted created
        exact (unmade ⟨token, realm, receipt, by simp [he], success⟩).elim
      · -- Nothing else removes a realm, so it is the removal at the end that succeeded.
        have here := removed_later (run_spares spares_looks looked) removed
        have here := removed_later (run_spares (spares_create (.realm _)) created) here
        have here := removed_later (filling_spares failed) here
        obtain ⟨found, rfl⟩ := removed_ok removal here
        obtain ⟨_, rfl⟩ := call_whole removal last
        rw [Function.update_idem, ← absent]
        exact Function.update_eq_self _ _
    · exact (removal_elsewhere removal last other).trans (Function.update_of_ne other _ _)

/-! ## One realm after the other -/

/-- A realm that was asked for, with what the provider kept before it and after it. -/
structure Visit where
  tenant : Tenant
  before : World
  events : List Facility.Event
  result : Except Fault Wire.Realm
  after : World

/-- Realms are established one after the other, each from where the last one left the provider. Which
token is kept at the start of each of them is left open. -/
inductive Series (d : Design) : World → List Visit → World → Prop
  | nil (w : World) : Series d w [] w
  | cons {w w₁ w' : World} {t : Tenant} {slot slot' : TokenSlot} {es : List Facility.Event}
      {r : Except Fault Wire.Realm} {vs : List Visit} (run : (d.establish t).Runs slot es r slot')
      (conforms : Conforms w es w₁) (rest : Series d w₁ vs w') :
      Series d w (⟨t, w, es, r, w₁⟩ :: vs) w'

/-- However many realms are established, and whatever faults there are, each of them is all or
nothing. -/
theorem series_all_or_nothing (d : Design) {vs : List Visit} (series : Series d w vs w')
    (apart : ∀ v ∈ vs, d.plan.Apart v.tenant.name) :
    ∀ v ∈ vs, AllOrNothing d v.tenant v.before v.events v.result v.after := by
  induction series with
  | nil => exact fun v hv => (List.not_mem_nil hv).elim
  | cons run conforms _ ih =>
    intro v hv
    rcases List.mem_cons.mp hv with rfl | hv
    · exact establish_atomic d (apart _ List.mem_cons_self) run conforms
    · exact ih (fun v hv => apart v (List.mem_cons_of_mem _ hv)) v hv

/-- The realm of a tenant, and what it is furnished with at some provider. -/
def acmeRealm : Wire.Realm := usual.blueprint.realm usual.lifetimes .nil acme

def builtinMapper : Wire.Mapper :=
  ⟨none, "Client ID", openidConnect, "oidc-usersessionmodel-note-mapper", false, ∅⟩

def acmeFurniture : Furniture where
  system := ⟨some "1", "System", some "Role of module service accounts"⟩
  passwordReset := ⟨some "2", "Password Reset", some "Allows resetting user passwords"⟩
  management := ⟨"m", { (ClientPlan.forModules usual.plan.clients 0).client "m" with
    id := some "m", clientId := managementClient }, "u0"⟩
  modules := ⟨"3", (ClientPlan.forModules usual.plan.clients 0).client "s", "u3"⟩
  login := ⟨"4", (ClientPlan.forLogin usual.plan.clients "acme" 0).client "s", "u4"⟩
  impersonation := ⟨"5", (ClientPlan.forImpersonation usual.plan.clients 0).client "s", "u5"⟩
  resetting :=
    ⟨"7", (ClientPlan.forPasswordReset usual.plan.clients builtinMapper 0).client "s", "u7"⟩
  policy := "6"
  permission := "p"

def answered (c : Provider.Call) (a : c.Answer) : Facility.Event := ⟨.call "t" c, .ok a⟩

/-- The realm is created, its first role is refused, and it is removed. -/
def takenBackEvents : List Facility.Event :=
  [answered (.findRealm "acme") none,
   answered (.createRealm acmeRealm) (.created "0"),
   ⟨.call "t" (.createRole "acme" { acmeFurniture.system with id := none }),
    .error (.status ⟨403⟩ "")⟩,
   answered (.deleteRealm "acme") true]

/-- The realm is created and furnished. -/
def furnishingEvents : List Facility.Event :=
  let secret (clientId : String) : Facility.Event :=
    ⟨.readSecret ("tenant-realm_acme_" ++ clientId), .ok (some "s")⟩
  let now : Facility.Event := ⟨.now, (0 : Nat)⟩
  let permission : Wire.Policy :=
    { ClientPlan.plainPolicy "impersonate" "scope" [] with id := some "p" }
  [answered (.findRealm "acme") none,
   answered (.createRealm acmeRealm) (.created "0"),
   answered (.createRole "acme" { acmeFurniture.system with id := none }) (.created "1"),
   answered (.createRole "acme" { acmeFurniture.passwordReset with id := none }) (.created "2"),
   now, secret "sidecar-module-access-client",
   answered (.createClient "acme" acmeFurniture.modules.client) (.created "3"),
   answered (.serviceAccount "acme" "3") ⟨"u3", none⟩,
   answered (.findRole "acme" "System") (some acmeFurniture.system),
   answered (.addRoles "acme" "u3" [acmeFurniture.system]) (),
   now, secret "acme-login-application",
   answered (.createClient "acme" acmeFurniture.login.client) (.created "4"),
   now, secret "impersonation-client",
   answered (.createClient "acme" acmeFurniture.impersonation.client) (.created "5"),
   answered (.findClients "acme" managementClient) [acmeFurniture.management.client],
   answered (.enablePermissions "acme") ⟨true, none, .ofList [("impersonate", "p")]⟩,
   answered (.createPolicy "acme" "m" (Plan.impersonationPolicy "impersonation-client" "5"))
     (.created "6"),
   answered (.findPermission "acme" "m" "p") permission,
   answered (.findPolicies "acme" "m" "p") [],
   answered (.updatePermission "acme" "m" { permission with policies := some ["6"] }) (),
   answered .serverInfo ⟨.ofList [("openid-connect", [builtinMapper])]⟩,
   now, secret "password-reset-client",
   answered (.createClient "acme" acmeFurniture.resetting.client) (.created "7")]

theorem takenBack_runs :
    (usual.establish acme).Runs ⟨some "t"⟩ takenBackEvents (.error roleRefused) ⟨some "t"⟩ :=
  .ask (.ask (.ask (.ask (.done _))))

theorem furnishing_runs :
    (usual.establish acme).Runs ⟨some "t"⟩ furnishingEvents (.ok acmeRealm) ⟨some "t"⟩ :=
  .ask (.ask (.ask (.ask (.ask (.ask (.ask (.ask (.ask (.ask (.ask (.ask (.ask (.ask (.ask (.ask
    (.ask (.ask (.ask (.ask (.ask (.ask (.ask (.ask (.ask (.ask (.done _))))))))))))))))))))))))))

theorem succeeds_conforms {c : Provider.Call} {a : c.Answer} {w₁ : World} {es : List Facility.Event}
    (h : Succeeds w c a w₁) (rest : Conforms w₁ es w') : Conforms w (answered c a :: es) w' :=
  .cons (.call (.success h)) rest

theorem aside_conforms {e : Facility.Event} {es : List Facility.Event}
    (waits : Waits e) (rest : Conforms w es w') : Conforms w (e :: es) w' :=
  .cons (.aside waits) rest

theorem creation_succeeds (absent : w "acme" = none) :
    Succeeds w (.createRealm acmeRealm) (Receipt.created "0")
      (update w "acme" (some (.new acmeRealm acmeFurniture.management))) :=
  .accepted rfl rfl ⟨absent, acmeFurniture.management, rfl, rfl⟩

theorem takenBack_conforms (absent : w "acme" = none) : Conforms w takenBackEvents w := by
  have back : update (update w "acme" (some (.new acmeRealm acmeFurniture.management))) "acme" none =
      w := by
    rw [Function.update_idem, ← absent]
    exact Function.update_eq_self _ _
  refine succeeds_conforms ⟨(congrArg Option.isSome absent).symm, rfl⟩ ?_
  refine succeeds_conforms (creation_succeeds absent) (.cons (.call (.fault _)) ?_)
  refine succeeds_conforms ⟨?_, rfl⟩ ?_
  · rw [Function.update_self]
    rfl
  · rw [back]
    exact .nil w

theorem furnishing_conforms (absent : w "acme" = none) :
    Conforms w furnishingEvents (update w "acme" (some (acmeFurniture.contents acmeRealm))) := by
  have managed (c : Contents) (h : c.called managementClient = [acmeFurniture.management]) :
      c.ManagedBy "m" := ⟨acmeFurniture.management, h ▸ List.mem_singleton.mpr rfl, rfl⟩
  have waits_now : Waits ⟨.now, (0 : Nat)⟩ := fun _ _ hq => by cases hq
  have waits_secret (key : String) : Waits ⟨.readSecret key, .ok (some "s")⟩ :=
    fun _ _ hq => by cases hq
  have changed {c c' : Contents} {change : Contents → Contents → Prop} (h : change c c') :
      Within (update w "acme" (some c)) "acme" change (update w "acme" (some c')) :=
    within_update_iff.mpr ⟨c', rfl, h⟩
  have seen {c : Contents} {holds : Contents → Prop} (h : holds c) :
      Seen (update w "acme" (some c)) "acme" holds (update w "acme" (some c)) :=
    seen_update_iff.mpr ⟨rfl, h⟩
  refine succeeds_conforms ⟨(congrArg Option.isSome absent).symm, rfl⟩ ?_
  refine succeeds_conforms (creation_succeeds absent) ?_
  refine succeeds_conforms (.accepted rfl rfl (changed rfl)) ?_
  refine succeeds_conforms (.accepted rfl rfl (changed rfl)) ?_
  refine aside_conforms waits_now (aside_conforms (waits_secret _) ?_)
  refine succeeds_conforms (.accepted rfl rfl (changed ⟨by decide, "u3", rfl⟩)) ?_
  refine succeeds_conforms
    (seen ⟨_, List.mem_cons_of_mem _ (List.mem_singleton.mpr rfl), rfl, rfl⟩) ?_
  refine succeeds_conforms (seen rfl) (succeeds_conforms (changed rfl) ?_)
  refine aside_conforms waits_now (aside_conforms (waits_secret _) ?_)
  refine succeeds_conforms (.accepted rfl rfl (changed ⟨by decide, "u4", rfl⟩)) ?_
  refine aside_conforms waits_now (aside_conforms (waits_secret _) ?_)
  refine succeeds_conforms (.accepted rfl rfl (changed ⟨by decide, "u5", rfl⟩)) ?_
  refine succeeds_conforms (seen rfl) (succeeds_conforms (changed ⟨⟨"p", []⟩, rfl, rfl, rfl⟩) ?_)
  refine succeeds_conforms (.accepted rfl rfl (changed ⟨managed _ rfl, rfl⟩)) ?_
  refine succeeds_conforms (seen ⟨managed _ rfl, _, rfl, rfl, rfl⟩) ?_
  refine succeeds_conforms (seen ⟨managed _ rfl, _, rfl, rfl, rfl⟩) ?_
  refine succeeds_conforms (changed ⟨managed _ rfl, _, rfl, rfl, rfl⟩) ?_
  refine succeeds_conforms rfl (aside_conforms waits_now (aside_conforms (waits_secret _) ?_))
  exact succeeds_conforms (.accepted rfl rfl (changed ⟨by decide, "u7", rfl⟩)) (.nil _)

def bare : World := fun _ => none

/-- The realm is taken back the first time and furnished the second time. -/
def twoVisits : List Visit :=
  [⟨acme, bare, takenBackEvents, .error roleRefused, bare⟩,
   ⟨acme, bare, furnishingEvents, .ok acmeRealm,
    update bare "acme" (some (acmeFurniture.contents acmeRealm))⟩]

theorem twoVisits_series :
    Series usual bare twoVisits (update bare "acme" (some (acmeFurniture.contents acmeRealm))) :=
  .cons takenBack_runs (takenBack_conforms rfl)
    (.cons furnishing_runs (furnishing_conforms rfl) (.nil _))

theorem series_all_or_nothing_twice :
    (∀ v ∈ twoVisits, AllOrNothing usual v.tenant v.before v.events v.result v.after) ∧
      ∃ f : Furniture, f.Fits usual.plan "acme" ∧
        update bare "acme" (some (acmeFurniture.contents acmeRealm)) =
          update bare "acme" (some (f.contents acmeRealm)) := by
  have apart : usual.plan.Apart "acme" := ⟨by decide, by decide⟩
  have each := series_all_or_nothing usual twoVisits_series fun v hv => by
    rcases List.mem_cons.mp hv with rfl | hv
    · exact apart
    · obtain rfl := List.mem_singleton.mp hv
      exact apart
  have second := each _ (List.mem_cons_of_mem _ (List.mem_singleton.mpr rfl))
  obtain ⟨_, _, _, furniture⟩ := second.made acmeRealm rfl rfl
  exact ⟨each, furniture⟩

end Tenancy.Realm
