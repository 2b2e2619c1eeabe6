import Tenancy.Json.Record

/-!
# Realms on the wire

What the admin interface takes and returns for a realm, its required actions, its components and its
roles. Fields without a value are left out, so that an update touches only what it sets, and fields
this library does not know are passed over.
-/

namespace Tenancy.Wire

open Json (Codec Field Record)

/-- An action that users may have to take when they log in. -/
structure RequiredAction where
  ident : String
  name : String
  providerId : String
  enabled : Bool
  defaultAction : Bool
  priority : Int32
  config : Dict String
  deriving DecidableEq, Repr

/-- The wire form of a required action. -/
def RequiredAction.record : Record RequiredAction where
  name := "RequiredActionProviderRepresentation"
  fields :=
    [.required "alias" .string (·.ident) fun v s => { s with ident := v },
     .required "name" .string (·.name) fun v s => { s with name := v },
     .required "providerId" .string (·.providerId) fun v s => { s with providerId := v },
     .defaulted "enabled" .bool (·.enabled) fun v s => { s with enabled := v },
     .defaulted "defaultAction" .bool (·.defaultAction) fun v s => { s with defaultAction := v },
     .defaulted "priority" .int32 (·.priority) fun v s => { s with priority := v },
     .defaulted "config" (.dict .string) (·.config) fun v s => { s with config := v }]
  blank := ⟨"", "", "", false, false, 0, ∅⟩
  strict := false

/-- Required actions in JSON. -/
def RequiredAction.codec : Codec RequiredAction := record.codec

/-- A configured part of a realm. -/
structure Component where
  name : Option String
  providerId : String
  config : Dict (List String)
  deriving DecidableEq, Repr

/-- The wire form of a component. -/
def Component.record : Record Component where
  name := "ComponentRepresentation"
  fields :=
    [.present "name" .string (·.name) fun v s => { s with name := v },
     .required "providerId" .string (·.providerId) fun v s => { s with providerId := v },
     .defaulted "config" (.dict (.list .string)) (·.config) fun v s => { s with config := v }]
  blank := ⟨none, "", ∅⟩
  strict := false

/-- Components in JSON. -/
def Component.codec : Codec Component := record.codec

/-- A role of a realm. -/
structure Role where
  id : Option String
  name : String
  description : Option String
  deriving DecidableEq, Repr

/-- The wire form of a role. -/
def Role.record : Record Role where
  name := "RoleRepresentation"
  fields :=
    [.present "id" .string (·.id) fun v s => { s with id := v },
     .required "name" .string (·.name) fun v s => { s with name := v },
     .present "description" .string (·.description) fun v s => { s with description := v }]
  blank := ⟨none, "", none⟩
  strict := false

/-- Roles in JSON. -/
def Role.codec : Codec Role := record.codec

/-- A realm. -/
structure Realm where
  id : Option String
  realm : String
  displayName : Option String
  enabled : Option Bool
  accessTokenLifespan : Option UInt32
  ssoSessionIdleTimeout : Option UInt32
  ssoSessionMaxLifespan : Option UInt32
  clientSessionIdleTimeout : Option UInt32
  clientSessionMaxLifespan : Option UInt32
  offlineSessionIdleTimeout : Option UInt32
  requiredActions : Option (List RequiredAction)
  components : Option (Dict (List Component))
  attributes : Option (Dict String)
  deriving DecidableEq, Repr

/-- A realm of which only the name is given. -/
def Realm.named (name : String) : Realm :=
  ⟨none, name, none, none, none, none, none, none, none, none, none, none, none⟩

/-- The wire form of a realm. -/
def Realm.record : Record Realm where
  name := "RealmRepresentation"
  fields :=
    [.present "id" .string (·.id) fun v s => { s with id := v },
     .required "realm" .string (·.realm) fun v s => { s with realm := v },
     .present "displayName" .string (·.displayName) fun v s => { s with displayName := v },
     .present "enabled" .bool (·.enabled) fun v s => { s with enabled := v },
     .present "accessTokenLifespan" .uint32 (·.accessTokenLifespan)
       fun v s => { s with accessTokenLifespan := v },
     .present "ssoSessionIdleTimeout" .uint32 (·.ssoSessionIdleTimeout)
       fun v s => { s with ssoSessionIdleTimeout := v },
     .present "ssoSessionMaxLifespan" .uint32 (·.ssoSessionMaxLifespan)
       fun v s => { s with ssoSessionMaxLifespan := v },
     .present "clientSessionIdleTimeout" .uint32 (·.clientSessionIdleTimeout)
       fun v s => { s with clientSessionIdleTimeout := v },
     .present "clientSessionMaxLifespan" .uint32 (·.clientSessionMaxLifespan)
       fun v s => { s with clientSessionMaxLifespan := v },
     .present "offlineSessionIdleTimeout" .uint32 (·.offlineSessionIdleTimeout)
       fun v s => { s with offlineSessionIdleTimeout := v },
     .present "requiredActions" (.list RequiredAction.codec) (·.requiredActions)
       fun v s => { s with requiredActions := v },
     .present "components" (.dict (.list Component.codec)) (·.components)
       fun v s => { s with components := v },
     .present "attributes" (.dict .string) (·.attributes) fun v s => { s with attributes := v }]
  blank := .named ""
  strict := false

/-- Realms in JSON. -/
def Realm.codec : Codec Realm := record.codec

end Tenancy.Wire
