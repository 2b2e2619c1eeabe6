import Tenancy.Fault
import Tenancy.Settings
import Tenancy.Url.Reader

/-!
# Checking settings

What a codec cannot see: whether the addresses are URLs, and whether ids and keys tell realms
apart. The first field that is wrong is named.
-/

namespace Tenancy

/-- Fails unless the text is a URL. -/
def checkUrl (field raw : String) : Except Fault Url :=
  (Url.parse raw).mapError fun e => .invalid field e.message

/-- A URL that segments can be added to. -/
def baseUrl (field raw : String) : Except Fault Url := do
  let u ← checkUrl field raw
  if u.isHierarchical then return u else throw (.invalid field "not a base URL")

/-- Fails with the first setting that cannot be used. -/
def Settings.check (s : Settings) : Except Fault Unit := do
  let _ ← checkUrl "keycloak.base_url" s.provider.baseUrl
  if s.registry.enabled then
    let _ ← checkUrl "registry.base_url" s.registry.baseUrl
  if !s.clients.namesRealm then
    throw (.invalid "clients.login_client_id" ("must contain " ++ ClientSettings.placeholder))
  if s.secretKeyPrefix.isEmpty then throw (.invalid "secret_key_prefix" "must not be empty")

end Tenancy
