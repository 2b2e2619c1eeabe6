import Tenancy.Fault
import Tenancy.Settings
import Tenancy.Tenant
import Tenancy.Wire.Realm

/-!
# What a new realm looks like

A realm is described by its tenant and the configured lifetimes. A new one also gets what is the
same for all of them: the required actions, and a user profile, which the provider takes as a JSON
text inside a component.
-/

namespace Tenancy.Realm

/-- What all new realms have in common. -/
structure Blueprint where
  requiredActions : List Wire.RequiredAction
  /-- A JSON text. -/
  profile : String
  deriving DecidableEq, Repr

namespace Blueprint

/-- A blueprint given by two JSON texts. -/
def ofTexts (requiredActions profile : String) : Except Fault Blueprint := do
  let actions ← ((Json.Codec.list Wire.RequiredAction.codec).readText requiredActions).mapError
    fun e => .invalid "required_actions" e.message
  let value ← (Json.Codec.value.readText profile).mapError fun e => .invalid "user_profile" e.message
  return ⟨actions, value.compact⟩

/-- A required action whose provider is known by the action's own identifier. -/
def action (ident name : String) (enabled : Bool) (priority : Int32) : Wire.RequiredAction :=
  ⟨ident, name, ident, enabled, false, priority, ∅⟩

/-- The required actions that are used unless others are given. -/
def standardActions : List Wire.RequiredAction :=
  [action "CONFIGURE_TOTP" "Configure OTP" true 10,
   action "TERMS_AND_CONDITIONS" "Terms and Conditions" false 20,
   action "UPDATE_PASSWORD" "Update Password" true 30,
   action "UPDATE_PROFILE" "Update Profile" true 40,
   action "VERIFY_EMAIL" "Verify Email" true 50,
   action "delete_account" "Delete Account" false 60,
   action "update_user_locale" "Update User Locale" true 1000]

/-- Those who may see and change a profile attribute. -/
def everyone : Json := .arr [.str "admin", .str "user"]

/-- An attribute of the user profile; members stand in key order. -/
def profileAttribute (name : String) (checks : List (String × Json)) : Json :=
  .obj
    [("displayName", .str ("$\x7b" ++ name ++ "\x7d")),
     ("multivalued", .bool false),
     ("name", .str name),
     ("permissions", .obj [("edit", everyone), ("view", everyone)]),
     ("validations", .obj checks)]

/-- At most as many characters as a column holds. -/
def lengthCheck (bounds : List (String × Json)) : String × Json :=
  ("length", .obj (("max", .nat 255) :: bounds))

/-- A check without settings. -/
def plainCheck (name : String) : String × Json := (name, .obj [])

/-- The user profile that is used unless another one is given. -/
def standardProfile : Json :=
  .obj
    [("attributes", .arr
      [profileAttribute "username"
        [lengthCheck [("min", .nat 3)], plainCheck "up-username-not-idn-homograph",
         plainCheck "username-prohibited-characters"],
       profileAttribute "email" [plainCheck "email", lengthCheck []],
       profileAttribute "firstName"
        [lengthCheck [], plainCheck "person-name-prohibited-characters"],
       profileAttribute "lastName"
        [lengthCheck [], plainCheck "person-name-prohibited-characters"]]),
     ("groups", .arr
      [.obj
        [("displayDescription", .str "Attributes, which refer to user metadata"),
         ("displayHeader", .str "User metadata"), ("name", .str "user-metadata")]]),
     ("unmanagedAttributePolicy", .str "ADMIN_EDIT")]

/-- The blueprint that is used unless another one is given. -/
def standard : Blueprint := ⟨standardActions, standardProfile.compact⟩

/-- The components of a new realm: one that holds the user profile. -/
def components (b : Blueprint) : Dict (List Wire.Component) :=
  .ofList
    [("org.keycloak.userprofile.UserProfileProvider",
      [⟨none, "declarative-user-profile", .ofList [("kc.user.profile.config", [b.profile])]⟩])]

end Blueprint

/-- The realm of a tenant, apart from what only new realms are given. -/
def describe (lifetimes : Lifetimes) (id : Uuid) (t : Tenant) : Wire.Realm where
  id := some id.text
  realm := t.name
  displayName := t.description
  enabled := some true
  accessTokenLifespan := some lifetimes.accessTokenLifespan
  ssoSessionIdleTimeout := some lifetimes.ssoSessionIdleTimeout
  ssoSessionMaxLifespan := some lifetimes.ssoSessionMaxLifespan
  clientSessionIdleTimeout := some lifetimes.clientSessionIdleTimeout
  clientSessionMaxLifespan := some lifetimes.clientSessionMaxLifespan
  offlineSessionIdleTimeout := some lifetimes.offlineSessionIdleTimeout
  requiredActions := none
  components := none
  attributes := none

/-- The new realm of a tenant. -/
def Blueprint.realm (b : Blueprint) (lifetimes : Lifetimes) (id : Uuid) (t : Tenant) : Wire.Realm :=
  { describe lifetimes id t with
    requiredActions := some b.requiredActions
    components := some b.components }

end Tenancy.Realm
