import Mathlib.Logic.Function.Basic
import Tenancy.Proofs.Work.Calls

/-!
# What a provider keeps

A provider keeps realms by name and, within a realm, roles, clients, the roles that were granted to
users, policies, and the permission to act as any user with the policies that it is bound to. A
conforming provider answers every call by a success that fits what it keeps, or by a fault that
changes nothing: an error, or a receipt that is no success. Which of them it is, which ids are given
out, and all else that may be answered to the provisioning, is left open.
-/

namespace Tenancy

namespace Provider

open Function (update)
open Realm (managementClient impersonateScope)

/-- A client with the id that it was given, and the user behind it. -/
structure Member where
  id : String
  client : Wire.Client
  user : String

/-- The permission to act as any user. -/
structure Permission where
  id : String
  /-- The ids of the policies that it is bound to. -/
  policies : List String

/-- What is kept of a realm. -/
structure Contents where
  settings : Wire.Realm
  roles : List Wire.Role
  clients : List Member
  /-- The roles that users were given. -/
  grants : List (String × Wire.Role)
  policies : List Wire.Policy
  permission : Option Permission

/-- The realms of a provider. -/
abbrev World := String → Option Contents

namespace Contents

/-- A new realm has the client that manages it, and nothing else. -/
def new (settings : Wire.Realm) (management : Member) : Contents where
  settings := settings
  roles := []
  clients := [management]
  grants := []
  policies := []
  permission := none

/-- Puts a thing in the place of the one with the same name, or else at the end. -/
def place {α : Type} (name : α → String) (x : α) : List α → List α
  | [] => [x]
  | y :: rest => if name y = name x then x :: rest else y :: place name x rest

theorem place_new {α : Type} {name : α → String} {x : α} {l : List α} (h : name x ∉ l.map name) :
    place name x l = l ++ [x] := by
  induction l with
  | nil => rfl
  | cons y l ih =>
    obtain ⟨other, h⟩ := not_or.mp (mt List.mem_cons.mpr h)
    rw [place, if_neg (Ne.symm other), ih h]
    rfl

/-- The clients with a client id. -/
def called (c : Contents) (clientId : String) : List Member :=
  c.clients.filter fun m => m.client.clientId = clientId

/-- Whether an id is that of a client that manages the realm. -/
def ManagedBy (c : Contents) (id : String) : Prop := ∃ m ∈ c.called managementClient, m.id = id

end Contents

/-! ## Calls -/

/-- A realm that exists is changed. -/
def Within (w : World) (realm : String) (change : Contents → Contents → Prop) (w' : World) : Prop :=
  ∃ c c', w realm = some c ∧ change c c' ∧ w' = update w realm (some c')

/-- A realm that exists is looked at. -/
def Seen (w : World) (realm : String) (holds : Contents → Prop) (w' : World) : Prop :=
  (∃ c, w realm = some c ∧ holds c) ∧ w' = w

/-- A receipt that is a success carries the id under which a thing was made; any other changes
nothing. -/
inductive Received (w : World) (receipt : Receipt) (made : String → World → Prop) (w' : World) : Prop
  | refused (failure : receipt.status.isSuccess = false) (same : w' = w)
  | accepted {id : String} (success : receipt.status.isSuccess = true)
      (carried : receipt.id? = some id) (h : made id w')

/-- What a conforming provider may answer to a call other than by an error, and what it keeps then. -/
def Succeeds (w : World) : (c : Call) → c.Answer → World → Prop
  | .findRealm name, (found : Option Wire.Realm), w' =>
    found.isSome = (w name).isSome ∧ w' = w
  | .createRealm realm, receipt, w' =>
    Received w receipt (fun _ w' => w realm.realm = none ∧
      ∃ management : Member, management.client.clientId = managementClient ∧
        w' = update w realm.realm (some (.new realm management))) w'
  | .updateRealm realm, _, w' =>
    Within w realm.realm (fun c c' => ∃ settings, c' = { c with settings := settings }) w'
  | .deleteRealm name, (found : Bool), w' =>
    found = (w name).isSome ∧ w' = update w name none
  | .createRole realm role, receipt, w' =>
    Received w receipt (fun id => Within w realm fun c c' =>
      c' = { c with roles := Contents.place Wire.Role.name { role with id := some id } c.roles }) w'
  | .findRole realm name, (found : Option Wire.Role), w' =>
    Seen w realm (fun c => found = c.roles.find? fun r => r.name = name) w'
  | .createClient realm client, receipt, w' =>
    Received w receipt (fun id => Within w realm fun c c' =>
      id ∉ c.clients.map Member.id ∧
        ∃ user, c' = { c with
          clients := Contents.place (fun m => m.client.clientId) ⟨id, client, user⟩ c.clients }) w'
  | .findClients realm clientId, (found : List Wire.Client), w' =>
    Seen w realm (fun c => found.map (·.id) = (c.called clientId).map fun m => some m.id) w'
  | .serviceAccount realm id, (user : Wire.User), w' =>
    Seen w realm (fun c => ∃ m ∈ c.clients, m.id = id ∧ m.user = user.id) w'
  | .addRoles realm user roles, _, w' =>
    Within w realm (fun c c' => c' = { c with grants := c.grants ++ roles.map fun r => (user, r) }) w'
  | .enablePermissions realm, (enabled : Wire.PermissionReference), w' =>
    Within w realm (fun c c' => ∃ p : Permission, p = c.permission.getD ⟨p.id, []⟩ ∧
      enabled.scopePermissions.get? impersonateScope = some p.id ∧
      c' = { c with permission := some p }) w'
  | .createPolicy realm server policy, receipt, w' =>
    Received w receipt (fun id => Within w realm fun c c' => c.ManagedBy server ∧
      c' = { c with
        policies := Contents.place Wire.Policy.name { policy with id := some id } c.policies }) w'
  | .findPermission realm server permission, (found : Wire.Policy), w' =>
    Seen w realm (fun c => c.ManagedBy server ∧ ∃ p, c.permission = some p ∧ p.id = permission ∧
      found.id = some permission) w'
  | .findPolicies realm server permission, (found : List Wire.Policy), w' =>
    Seen w realm (fun c => c.ManagedBy server ∧ ∃ p, c.permission = some p ∧ p.id = permission ∧
      found.filterMap (·.id) = p.policies) w'
  | .updatePermission realm server updated, _, w' =>
    Within w realm (fun c c' => c.ManagedBy server ∧ ∃ p, c.permission = some p ∧
      updated.id = some p.id ∧
      c' = { c with permission := some { p with policies := updated.policies.getD p.policies } }) w'
  | .serverInfo, _, w' => w' = w

/-- An answer of a conforming provider: a fault, which changes nothing, or a success. -/
inductive Responds (w : World) (c : Call) : Except ProviderError c.Answer → World → Prop
  | fault (e : ProviderError) : Responds w c (.error e) w
  | success {a : c.Answer} {w' : World} (h : Succeeds w c a w') : Responds w c (.ok a) w'

/-- One event, as it happens where a conforming provider is. -/
inductive Happens : World → Facility.Event → World → Prop
  | call {w w' : World} {token : Token} {c : Call} {a : Except ProviderError c.Answer}
      (responds : Responds w c a w') : Happens w ⟨.call token c, a⟩ w'
  | aside {w : World} {e : Facility.Event} (waits : Work.Waits e) : Happens w e w

/-- Events, one after the other. -/
inductive Conforms : World → List Facility.Event → World → Prop
  | nil (w : World) : Conforms w [] w
  | cons {w w₁ w' : World} {e : Facility.Event} {es : List Facility.Event} (first : Happens w e w₁)
      (rest : Conforms w₁ es w') : Conforms w (e :: es) w'

variable {w w' : World}

theorem within_update_iff {realm : String} {c : Contents} {change : Contents → Contents → Prop} :
    Within (update w realm (some c)) realm change w' ↔
      ∃ c', w' = update w realm (some c') ∧ change c c' := by
  constructor
  · rintro ⟨c₀, c', here, changed, rfl⟩
    rw [Function.update_self] at here
    cases here
    exact ⟨c', Function.update_idem .., changed⟩
  · rintro ⟨c', rfl, changed⟩
    exact ⟨c, c', Function.update_self .., changed, (Function.update_idem ..).symm⟩

theorem seen_update_iff {realm : String} {c : Contents} {holds : Contents → Prop} :
    Seen (update w realm (some c)) realm holds w' ↔ w' = update w realm (some c) ∧ holds c := by
  constructor
  · rintro ⟨⟨c₀, here, held⟩, rfl⟩
    rw [Function.update_self] at here
    cases here
    exact ⟨rfl, held⟩
  · rintro ⟨rfl, held⟩
    exact ⟨⟨c, Function.update_self .., held⟩, rfl⟩

/-! ## Events -/

variable {es es' : List Facility.Event}

theorem Conforms.of_nil (h : Conforms w [] w') : w' = w := by
  cases h
  rfl

theorem Conforms.of_append (h : Conforms w (es ++ es') w') :
    ∃ w₁, Conforms w es w₁ ∧ Conforms w₁ es' w' := by
  induction es generalizing w with
  | nil => exact ⟨w, .nil w, h⟩
  | cons e es ih =>
    cases h with
    | cons first rest =>
      obtain ⟨w₁, here, there⟩ := ih rest
      exact ⟨w₁, .cons first here, there⟩

theorem Conforms.of_waits (h : Conforms w es w') (waits : ∀ e ∈ es, Work.Waits e) : w' = w := by
  induction h with
  | nil => rfl
  | cons first rest ih =>
    have same := ih fun e he => waits e (List.mem_cons_of_mem _ he)
    cases first with
    | call => exact (waits _ List.mem_cons_self _ _ rfl).elim
    | aside => exact same

theorem Conforms.of_call {token : Token} {c : Call} {a : Except ProviderError c.Answer}
    (h : Conforms w [⟨.call token c, a⟩] w') : Responds w c a w' := by
  cases h with
  | cons first rest =>
    obtain rfl := rest.of_nil
    cases first with
    | call responds => exact responds
    | aside waits => exact (waits _ _ rfl).elim

end Provider

end Tenancy
