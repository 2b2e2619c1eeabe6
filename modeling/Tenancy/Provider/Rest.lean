import Tenancy.Outside
import Tenancy.Provider.Call

/-!
# The admin interface over HTTP

Each call is one request below the provider's base URL, and its answer is read off one reply. A 401
always means that the token was rejected. Creations hand over whatever else came back; lookups take
404 for an absence; everything else needs a success.
-/

namespace Tenancy.Provider

open Json (Codec)

/-- What is requested for a call: the path below the base URL, perhaps a query field, perhaps a
body. -/
structure Draft where
  method : Http.Method
  path : List String
  field : Option (String × String)
  body : Option Json

/-- The path of something inside a realm. -/
def realmPath (realm : String) (rest : List String) : List String :=
  "admin" :: "realms" :: realm :: rest

/-- The path of something inside a client's authorization settings. -/
def serverPath (realm server : String) (rest : List String) : List String :=
  realmPath realm ("clients" :: server :: "authz" :: "resource-server" :: rest)

/-- A lookup. -/
def reading (path : List String) : Draft := ⟨.get, path, none, none⟩

/-- A request with a body. -/
def sending (method : Http.Method) (path : List String) (body : Json) : Draft :=
  ⟨method, path, none, some body⟩

/-- What a call requests; a permission cannot be updated without its id. -/
def Call.draft : Call → Except ProviderError Draft
  | .findRealm realm => .ok (reading (realmPath realm []))
  | .createRealm realm => .ok (sending .post ["admin", "realms"] (Wire.Realm.codec.encode realm))
  | .updateRealm realm =>
    .ok (sending .put (realmPath realm.realm []) (Wire.Realm.codec.encode realm))
  | .deleteRealm realm => .ok ⟨.delete, realmPath realm [], none, none⟩
  | .createRole realm role =>
    .ok (sending .post (realmPath realm ["roles"]) (Wire.Role.codec.encode role))
  | .findRole realm name => .ok (reading (realmPath realm ["roles", name]))
  | .createClient realm client =>
    .ok (sending .post (realmPath realm ["clients"]) (Wire.Client.codec.encode client))
  | .findClients realm clientId =>
    .ok ⟨.get, realmPath realm ["clients"], some ("clientId", clientId), none⟩
  | .serviceAccount realm client =>
    .ok (reading (realmPath realm ["clients", client, "service-account-user"]))
  | .addRoles realm user roles =>
    .ok (sending .post (realmPath realm ["users", user, "role-mappings", "realm"])
      ((Codec.list Wire.Role.codec).encode roles))
  | .enablePermissions realm =>
    .ok (sending .put (realmPath realm ["users-management-permissions"])
      (.obj [("enabled", .bool true)]))
  | .createPolicy realm server policy =>
    .ok (sending .post (serverPath realm server ["policy", "client"])
      (Wire.Policy.codec.encode policy))
  | .findPermission realm server permission =>
    .ok (reading (serverPath realm server ["permission", "scope", permission]))
  | .findPolicies realm server permission =>
    .ok (reading (serverPath realm server ["policy", permission, "associatedPolicies"]))
  | .updatePermission realm server permission =>
    match permission.id with
    | some id =>
      .ok (sending .put (serverPath realm server ["permission", "scope", id])
        (Wire.Policy.codec.encode permission))
    | none => .error (.unreadable ("permission '" ++ permission.name ++ "' has no id"))
  | .serverInfo => .ok (reading ["admin", "serverinfo"])

/-- The request that a draft stands for. -/
def Draft.request (base : Url) (token : Token) (d : Draft) : Except ProviderError Http.Request :=
  match base.join? d.path with
  | none => .error (.unreadable ("cannot build URL from " ++ base.text))
  | some u =>
    let u := match d.field with
      | some f => u.withField f.1 f.2
      | none => u
    let r := (Http.Request.bare d.method u).withHeader "authorization" ("Bearer " ++ token)
    .ok (match d.body with
      | some body => r.withBody "application/json" body.compact
      | none => r)

/-- The request of a call. -/
def Call.request (base : Url) (token : Token) (c : Call) : Except ProviderError Http.Request := do
  (← c.draft).request base token

/-- A reply that is a success. -/
def success (r : Http.Reply) : Except ProviderError Http.Reply :=
  if r.status.isSuccess then .ok r else .error (.status r.status r.diagnostic)

/-- The value that a reply's body spells. -/
def content {α : Type} (c : Codec α) (r : Http.Reply) : Except ProviderError α :=
  match r.body with
  | .error cause => .error (.transport cause)
  | .ok bytes => (c.read (Utf8.glyphs bytes)).mapError fun e => .unreadable e.message

/-- The value of a successful reply. -/
def value {α : Type} (c : Codec α) (r : Http.Reply) : Except ProviderError α := do
  content c (← success r)

/-- The value of a reply, or that there is none. -/
def value? {α : Type} (c : Codec α) (r : Http.Reply) : Except ProviderError (Option α) :=
  if r.status = .notFound then .ok none else (value c r).map some

/-- Where a reply says that something new is, if it says so in plain text. -/
def location? (r : Http.Reply) : Option String :=
  (r.header? "location").bind fun v =>
    if v.toList.all fun c => c = '\t' || (32 ≤ c.toNat && c.toNat < 127) then some v else none

/-- A reply as a receipt. -/
def receipt (r : Http.Reply) : Except ProviderError Receipt :=
  match r.body with
  | .error cause => .error (.transport cause)
  | .ok bytes => .ok ⟨r.status, location? r, (Codec.value.read (Utf8.glyphs bytes)).toOption⟩

/-- The answer that a reply gives to a call. -/
def Call.read : (c : Call) → Http.Reply → Except ProviderError c.Answer
  | .findRealm _, r => value? Wire.Realm.codec r
  | .createRealm _, r => receipt r
  | .updateRealm _, r => (success r).map fun _ => ()
  | .deleteRealm _, r =>
    if r.status = .notFound then .ok false else (success r).map fun _ => true
  | .createRole _ _, r => receipt r
  | .findRole _ _, r => value? Wire.Role.codec r
  | .createClient _ _, r => receipt r
  | .findClients _ clientId, r =>
    (value (Codec.list Wire.Client.codec) r).map fun cs => cs.filter fun c => c.clientId = clientId
  | .serviceAccount _ _, r => value Wire.User.codec r
  | .addRoles _ _ _, r => (success r).map fun _ => ()
  | .enablePermissions _, r => value Wire.PermissionReference.codec r
  | .createPolicy _ _ _, r => receipt r
  | .findPermission _ _ _, r => value Wire.Policy.codec r
  | .findPolicies _ _ _, r => value (Codec.list Wire.Policy.codec) r
  | .updatePermission _ _ _, r => (success r).map fun _ => ()
  | .serverInfo, r => value Wire.ServerInfo.codec r

/-- The answer to a call, read off what came of its request. -/
def Call.answer (c : Call) (o : Http.Outcome) : Except ProviderError c.Answer :=
  match o with
  | .error cause => .error (.transport cause)
  | .ok r => if r.status = .unauthorized then .error .unauthorized else c.read r

/-- Carries out a call. -/
def Call.perform (base : Url) (token : Token) (c : Call) :
    Program Outside (Except ProviderError c.Answer) :=
  match c.request base token with
  | .error e => .done (.error e)
  | .ok r => return c.answer (← Outside.send r)

end Tenancy.Provider
