import Tenancy.Json.Record
import Tenancy.Outside
import Tenancy.Settings.Check

/-!
# Obtaining admin tokens

An admin token is requested from the token endpoint of the admin realm. The credentials are looked
up in the secret store each time; one that is missing or cannot be read is left out, and the
endpoint decides what to make of that.
-/

namespace Tenancy.Provider

open Json (Codec Field Record)

/-- What the token endpoint answers with. -/
structure Grant where
  accessToken : String
  tokenType : Option String

/-- The wire form of a grant. -/
def Grant.record : Record Grant where
  name := "TokenResponse"
  fields :=
    [.required "access_token" .string (·.accessToken) fun v s => { s with accessToken := v },
     .defaulted "token_type" Codec.string.option (·.tokenType) fun v s => { s with tokenType := v }]
  blank := ⟨"", none⟩
  strict := false

/-- Where and as whom tokens are requested. -/
structure Login where
  endpoint : Url
  settings : ProviderSettings

namespace Login

/-- The login at the provider with the given base URL. -/
def ofSettings (base : Url) (s : ProviderSettings) : Except Fault Login :=
  match base.join? ["realms", s.adminRealm, "protocol", "openid-connect", "token"] with
  | some u => .ok ⟨u, s⟩
  | none => .error (.invalid "keycloak.base_url" "not a base URL")

/-- A secret, if it can be read and is there. -/
def lookup (key : String) : Program Outside (Option String) := do
  match ← Outside.ask (.readSecret key) with
  | .ok v => return v
  | .error _ => return none

/-- The fields of a token request. -/
def fields (s : ProviderSettings) (secret password : Option String) : List (String × String) :=
  [("grant_type", s.grantType.text), ("client_id", s.clientId)]
    ++ (secret.map fun v => ("client_secret", v)).toList
    ++ (match password with
      | some v => [("username", s.username), ("password", v)]
      | none => [])

/-- The token that a reply grants. -/
def read (r : Http.Reply) : Except ProviderError Token :=
  if r.status = .unauthorized then .error .unauthorized
  else if !r.status.isSuccess then .error (.status r.status r.diagnostic)
  else
    match r.body with
    | .error cause => .error (.transport cause)
    | .ok bytes =>
      match Grant.record.codec.read (Utf8.glyphs bytes) with
      | .error e => .error (.unreadable e.message)
      | .ok g =>
        match g.tokenType with
        | some kind =>
          if kind.toLower = "bearer" then .ok g.accessToken
          else .error (.unreadable ("unsupported token type: " ++ kind))
        | none => .ok g.accessToken

/-- The request for a token. -/
def request (l : Login) (secret password : Option String) : Http.Request :=
  (Http.Request.bare .post l.endpoint).withBody "application/x-www-form-urlencoded"
    (Form.encode (fields l.settings secret password))

/-- Requests a token. The password is looked up for the grants that take one. -/
def issue (l : Login) : Program Outside (Except ProviderError Token) := do
  let secret ← lookup l.settings.clientSecretKey
  let password ← match l.settings.grantType with
    | .password => lookup l.settings.passwordKey
    | .clientCredentials => pure none
  match ← Outside.send (l.request secret password) with
  | .error cause => return .error (.transport cause)
  | .ok r => return read r

end Login

end Tenancy.Provider
