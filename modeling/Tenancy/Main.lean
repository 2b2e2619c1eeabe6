import Std.Async.DNS
import Std.Async.TCP
import Std.Internal.UV.System
import Std.Time.DateTime.Timestamp
import Tenancy.Cli.Run
import Tenancy.Http.Transfer

/-!
# The program

What a run asks of the world outside is answered here: requests go over the network, random numbers
and the time come from the system. Nothing is decided here, so nothing is stated about it.
-/

namespace Tenancy.World

open Std.Async Std.Net

/-- All bytes that a server sends until it closes the connection. -/
partial def drain (c : TCP.Socket.Client) (bytes : ByteArray) : Async ByteArray := do
  match ← c.recv? 65536 with
  | some more => drain c (bytes ++ more)
  | none => return bytes

/-- The address of a host. -/
def resolve (name : String) (port : UInt16) : Async SocketAddress := do
  let addresses ← DNS.getAddrInfo name ""
  match addresses.toList with
  | .v4 a :: _ => return .v4 ⟨a, port⟩
  | .v6 a :: _ => return .v6 ⟨a, port⟩
  | [] => throw (.userError "no address")

/-- Where a URL is served. -/
def address (u : Url) : Async SocketAddress :=
  let port := (u.port.getD ((Url.defaultPort? u.scheme).getD 80)).toUInt16
  match u.host with
  | some (.ipv4 a) =>
    let octet (i : Nat) := (a >>> (8 * i)).toUInt8
    return .v4 ⟨.ofParts (octet 3) (octet 2) (octet 1) (octet 0), port⟩
  | some (.ipv6 gs) =>
    let g (i : Nat) := (gs.getD i 0).toUInt16
    return .v6 ⟨.ofParts (g 0) (g 1) (g 2) (g 3) (g 4) (g 5) (g 6) (g 7), port⟩
  | some (.name s) => resolve s port
  | none => throw (.userError "no host")

/-- A connection to where a URL is served. -/
def connect (u : Url) : Async TCP.Socket.Client := do
  let c ← TCP.Socket.Client.mk
  c.connect (← address u)
  return c

/-- The value of a computation, or the text of what went wrong in it. -/
def observe {α : Type} (x : Async α) : IO (Except String α) := do
  try
    return .ok (← x.block)
  catch e =>
    return .error (toString e)

/-- Sends a request and takes what comes back. -/
def talk (c : TCP.Socket.Client) (r : Http.Request) : Async Bytes := do
  c.send ⟨r.wire.toArray⟩
  return (← drain c .empty).toList

/-- Sends a request and waits for the answer. -/
def exchange (r : Http.Request) : IO Http.Outcome := do
  if r.url.scheme = "https" then
    return .error (Http.unsent r.url ["client error (Connect)", "encryption is not supported"])
  match ← observe (connect r.url) with
  | .error cause => return .error (Http.unsent r.url ["client error (Connect)", cause])
  | .ok c =>
    match ← observe (talk c r) with
    | .error cause => return .error (Http.unsent r.url ["client error (SendRequest)", cause])
    | .ok bytes => return r.outcome bytes

/-- A number of five hundred and twelve random bits. -/
def entropy : IO Nat := do
  return (← IO.getRandomBytes 64).toList.foldl (fun n b => n * 256 + b.toNat) 0

/-- The time in seconds since the epoch. -/
def now : IO Nat := do
  return (← Std.Time.Timestamp.now).toSecondsSinceUnixEpoch.val.toNat

/-- Answers a question. There are no secrets but those of the run itself, and no topics. -/
def answer : (q : Outside.Query) → IO q.Answer
  | .exchange r => exchange r
  | .readSecret _ => return .ok none
  | .writeSecret _ _ => return .ok ()
  | .cleanTopics _ => return .ok ()
  | .entropy => entropy
  | .now => now

/-- The content of a file that can be read. -/
def content (path : String) : IO (Option Bytes) := do
  try
    return some (← IO.FS.readBinFile path).toList
  catch _ =>
    return none

/-- What a run with these arguments starts from. -/
def surroundings (arguments : List String) : IO Cli.Surroundings := do
  let environment := (← Std.Internal.UV.System.osEnviron).toList
  let file ← match Cli.settingsFile? arguments with
    | some path => content path
    | none => pure none
  return ⟨arguments, environment, fun _ => file⟩

end Tenancy.World

/-- Runs the program. -/
def main (arguments : List String) : IO UInt32 := do
  let outcome ← (Tenancy.Cli.run (← Tenancy.World.surroundings arguments)).run Tenancy.World.answer
  IO.print outcome.output
  for line in outcome.complaint do
    IO.eprintln line
  return outcome.code.toUInt32
