import Tenancy.Work

/-!
# Client secrets

Every client of a realm has a secret of its own, kept in the secret store under a key made of the
configured beginning, the realm and the client's id. It is made up the first time it is needed and
used unchanged ever after; it is written down before anyone is told about it.
-/

namespace Tenancy.Secret

/-- Where the secret of a realm's client is kept. -/
def key (keyStart realm clientId : String) : String := keyStart ++ "_" ++ realm ++ "_" ++ clientId

/-- How long a new secret is. -/
def length : Nat := 32

/-- The letter or digit for a value below 62. -/
def digit (n : Nat) : Char :=
  if n < 26 then Char.ofNat (65 + n)
  else if n < 52 then Char.ofNat (71 + n)
  else Char.ofNat (n - 4)

/-- Letters and digits read off a number, as many as asked for. -/
def digits : Nat → Nat → List Char
  | 0, _ => []
  | count + 1, n => digit (n % 62) :: digits count (n / 62)

/-- A new secret out of a random number. -/
def generate (entropy : Nat) : String := String.ofList (digits length entropy)

/-- The secret of a realm's client, made up and stored if there is none yet. -/
def obtain (keyStart realm clientId : String) : Work String := do
  let k := key keyStart realm clientId
  match ← Session.lift (Facility.ask (.readSecret k)) with
  | some secret => return secret
  | none =>
    let secret := generate (← Work.ask .entropy)
    Session.lift (Facility.ask (.writeSecret k secret))
    return secret

end Tenancy.Secret
