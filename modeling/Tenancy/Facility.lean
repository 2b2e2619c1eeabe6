import Tenancy.Provider.Login
import Tenancy.Provider.Rest

/-!
# What provisioning asks for

Provisioning is written against calls and tokens and does not know how they travel. These are the
facilities that it asks for: to make a call with a token, to issue a token, to read and write
secrets, for randomness and for the time. Over a provider on the network, calls and tokens become
requests and all else is passed on.
-/

namespace Tenancy

/-- A question that provisioning asks. -/
inductive Facility.Query where
  | call (token : Token) (call : Provider.Call)
  | issueToken
  | readSecret (key : String)
  | writeSecret (key value : String)
  | entropy
  | now

/-- The answers to the questions. -/
def Facility.Query.Answer : Facility.Query → Type
  | .call _ c => Except ProviderError c.Answer
  | .issueToken => Except ProviderError Token
  | .readSecret _ => Except Fault (Option String)
  | .writeSecret _ _ => Except Fault Unit
  | .entropy => Nat
  | .now => Nat

/-- What provisioning asks for. -/
def Facility : Interface := ⟨Facility.Query, Facility.Query.Answer⟩

namespace Facility

/-- Asks one question. -/
def ask (q : Query) : Program Facility q.Answer := Program.query (I := Facility) q

/-- Makes a call with a token. -/
def call (c : Provider.Call) (token : Token) : Program Facility (Except ProviderError c.Answer) :=
  ask (.call token c)

/-- Issues a token. -/
def issue : Program Facility (Except ProviderError Token) := ask .issueToken

end Facility

/-- A provider on the network. -/
structure Provider.Endpoint where
  base : Url
  login : Provider.Login

/-- How a question is answered over the network. -/
def Provider.Endpoint.find (e : Provider.Endpoint) : (q : Facility.Query) → Program Outside q.Answer
  | .call token c => c.perform e.base token
  | .issueToken => e.login.issue
  | .readSecret key => Outside.ask (.readSecret key)
  | .writeSecret key value => Outside.ask (.writeSecret key value)
  | .entropy => Outside.ask .entropy
  | .now => Outside.ask .now

end Tenancy
