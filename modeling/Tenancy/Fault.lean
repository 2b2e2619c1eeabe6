import Tenancy.Chain
import Tenancy.Http.Status

/-!
# Failures

Three kinds of failure, from the outside in. A `ProviderError` is what one call to the identity
provider ends with. A `Fault` is what an operation of this library ends with: it says what was
attempted and keeps the call's error beside that text. A `PublicError` is what callers of the
tenant service see: one line of text and a status code, and never the body of a provider's answer.
-/

namespace Tenancy

/-- Why a call to the identity provider failed. -/
inductive ProviderError where
  /-- The bearer token was rejected. -/
  | unauthorized
  /-- The provider answered with a status that is no success; the body serves diagnostics only. -/
  | status (status : Status) (body : String)
  /-- No answer was received. -/
  | transport (cause : Chain)
  /-- The answer has not the expected form. -/
  | unreadable (message : String)
  deriving DecidableEq, Repr

/-- Why an operation failed. -/
inductive Fault where
  /-- A call to the identity provider failed, or its answer is of no use. -/
  | provider (message : String) (source : Option ProviderError)
  /-- Something that should exist does not. -/
  | absent (what : String)
  /-- There are several where one was expected. -/
  | ambiguous (what : String) (count : Nat)
  /-- An argument or a setting was rejected before anything was done. -/
  | invalid (field message : String)
  /-- The secret store could not be read or written. -/
  | secretStore (key message : String)
  /-- A call to the tenant registry failed. -/
  | registry (message : String)
  /-- The attribute store failed. -/
  | storage (cause : Chain)
  deriving DecidableEq, Repr

/-- What callers of the tenant service are told. -/
inductive PublicError where
  | validation (field message : String)
  | notFound (what : String)
  | conflict (message : String)
  | identityProvider (message : String)
  | registry (message : String)
  | internal (message : String)
  deriving DecidableEq, Repr

namespace ProviderError

/-- One line for the error; the body of the answer is not in it. -/
def message : ProviderError → String
  | .unauthorized => "unauthorized"
  | .status s _ => "HTTP " ++ s.text
  | .transport c => "transport error: " ++ c.message
  | .unreadable m => "invalid response: " ++ m

/-- The status that the provider answered with, if it did. -/
def status? : ProviderError → Option Status
  | .unauthorized => some .unauthorized
  | .status s _ => some s
  | .transport _ => none
  | .unreadable _ => none

/-- Whether a new token may help. -/
def isUnauthorized : ProviderError → Bool
  | .unauthorized => true
  | _ => false

/-- The causes of the error, the immediate one first. -/
def causes : ProviderError → List String
  | .transport c => c.messages
  | _ => []

end ProviderError

namespace Fault

/-- One line for the failure. -/
def message : Fault → String
  | .provider m _ => m
  | .absent what => what ++ " not found"
  | .ambiguous what n => "expected exactly one " ++ what ++ ", found " ++ toString n
  | .invalid field m => "validation error: " ++ field ++ ": " ++ m
  | .secretStore key m => "secret store error for key '" ++ key ++ "': " ++ m
  | .registry m => "tenant registry error: " ++ m
  | .storage c => "storage error: " ++ c.message

/-- The causes of the failure, the immediate one first. -/
def causes : Fault → List String
  | .provider _ (some e) => e.message :: e.causes
  | .storage c => c.messages
  | _ => []

/-- The failure as callers see it. -/
def publish : Fault → PublicError
  | .provider m (some e) => .identityProvider (m ++ ": " ++ e.message)
  | .provider m none => .identityProvider m
  | .absent what => .notFound what
  | .ambiguous what n => .conflict (message (.ambiguous what n))
  | .invalid field m => .validation field m
  | .secretStore key m => .internal (message (.secretStore key m))
  | .registry m => .registry m
  | .storage c => .internal (message (.storage c))

end Fault

namespace PublicError

/-- One line for the error. -/
def message : PublicError → String
  | .validation field m => "validation error: " ++ field ++ ": " ++ m
  | .notFound what => "not found: " ++ what
  | .conflict m => "conflict: " ++ m
  | .identityProvider m => "identity provider error: " ++ m
  | .registry m => "tenant registry error: " ++ m
  | .internal m => "internal error: " ++ m

/-- The HTTP status under which the error is served. -/
def statusCode : PublicError → Nat
  | .validation _ _ => 400
  | .notFound _ => 404
  | .conflict _ => 409
  | .identityProvider _ => 502
  | .registry _ => 502
  | .internal _ => 500

end PublicError

end Tenancy
