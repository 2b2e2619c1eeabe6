import Tenancy.Json.Printer
import Tenancy.Provider.Call
import Tenancy.Session

/-!
# Creating things

Whatever is created at the identity provider is created in the same way: a call that is made with a
token, a receipt that has to be a success, and the id of the new thing, which stands at the end of
the location or, where that says nothing, in the body. Every failure says what was being created.
-/

namespace Tenancy

/-- Things that can be created, with a word for their kind and a name for each of them. -/
class Resource (ρ : Type) where
  kind : String
  label : ρ → String

instance : Resource Wire.Realm := ⟨"realm", (·.realm)⟩
instance : Resource Wire.Role := ⟨"role", (·.name)⟩
instance : Resource Wire.Client := ⟨"client", (·.clientId)⟩
instance : Resource Wire.Policy := ⟨"policy", (·.name)⟩

namespace Receipt

/-- What stands after the last slash of a location, once the slashes at its end are taken off. -/
def lastPart (location : String) : String :=
  let back := location.toList.reverse.dropWhile (· = '/')
  String.ofList (back.takeWhile (· ≠ '/')).reverse

/-- The id in a body. -/
def bodyId? (body : Json) : Option String := (body.member? "id").bind Json.text?

/-- The id of what was created: from the location, or else from the body. -/
def id? (r : Receipt) : Option String :=
  let fromLocation := (r.location.map lastPart).filter fun s => !s.isEmpty
  fromLocation.or (r.body.bind bodyId?)

/-- A status in a message about a creation. -/
def statusText (s : Status) : String := toString s.code ++ " " ++ s.reason?.getD "Unknown"

/-- The id that a receipt amounts to under a text that says what was attempted. -/
def outcome (context : String) (r : Receipt) : Except Fault String :=
  if r.status.isSuccess then
    match r.id? with
    | some id => .ok id
    | none => .error (.provider (context ++ ": response carries no id") none)
  else
    .error (.provider (context ++ ": " ++ statusText r.status)
      (some (.status r.status ((r.body.map Json.compact).getD ""))))

end Receipt

/-- What is attempted when something is created. -/
def Resource.context {ρ : Type} [Resource ρ] (r : ρ) : String :=
  "Failed to create " ++ Resource.kind ρ ++ " '" ++ Resource.label r ++ "'"

/-- Creates something by the given call and returns its id. -/
def Session.create {m : Type → Type} [Monad m] {ρ : Type} [Resource ρ]
    (issue : m (Except ProviderError Token)) (r : ρ)
    (attempt : Token → m (Except ProviderError Receipt)) : Session m Fault String := do
  let context := Resource.context r
  let receipt ← access issue context fun t => (·.mapError Setback.raw) <$> attempt t
  lift (pure (receipt.outcome context))

end Tenancy
