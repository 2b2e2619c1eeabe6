import Tenancy.Fault
import Tenancy.Http.Message
import Tenancy.Program

/-!
# The world outside

What the service needs from outside itself: an HTTP client, a store of secrets, a cleaner of message
topics, a source of randomness and a clock. The client belongs to the world: an exchange is a request
that is handed to it, with the answer that it ends with. What the client does meanwhile is its own
affair, such as following redirects, telling a server the user name in a URL, or giving up in time.
-/

namespace Tenancy

/-- A bearer token. -/
abbrev Token := String

/-- A question to the world outside. -/
inductive Outside.Query where
  /-- One request that the HTTP client takes on, whatever it sends until it has the final answer. -/
  | exchange (request : Http.Request)
  | readSecret (key : String)
  | writeSecret (key value : String)
  | cleanTopics (tenant : String)
  /-- A number that nobody can foresee. -/
  | entropy
  /-- The time in seconds since the epoch. -/
  | now
  deriving DecidableEq, Repr

/-- The answers of the world outside. -/
def Outside.Query.Answer : Outside.Query → Type
  | .exchange _ => Http.Outcome
  | .readSecret _ => Except Fault (Option String)
  | .writeSecret _ _ => Except Fault Unit
  | .cleanTopics _ => Except Chain Unit
  | .entropy => Nat
  | .now => Nat

/-- The world outside. -/
def Outside : Interface := ⟨Outside.Query, Outside.Query.Answer⟩

namespace Outside

/-- Asks one question. -/
def ask (q : Query) : Program Outside q.Answer := Program.query (I := Outside) q

/-- Hands a request to the HTTP client. One that cannot be sent is turned down at once, and no server
hears of it. -/
def send (r : Http.Request) : Program Outside Http.Outcome :=
  match r.defect? with
  | some c => .done (.error c)
  | none => ask (.exchange r)

end Outside

end Tenancy
