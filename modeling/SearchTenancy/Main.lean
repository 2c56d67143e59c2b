import SearchTenancy.CommandLine.Run
import SearchTenancy.Http.Message
import Std.Async.DNS
import Std.Async.TCP
import Std.Time

/-!
# The program

Carries the requests of one command to a server and prints its result. Everything
that is decided is decided by `CommandLine.prepare` and `CommandLine.command`; this
module sends bytes, reads the clock and waits. It speaks plain HTTP.
-/

open Std.Async Std.Net

namespace SearchTenancy.Main

/-- The variables of the environment that the program reads. -/
def variableNames : List String :=
  ["TENANT_ID", "OPENSEARCH_URL", "OPENSEARCH_CONNECTION_MODE", "OPENSEARCH_RETRY_INTERVAL_SECS",
   "TENANT_SEARCH_DEFAULT_HITS_PER_PAGE", "TENANT_SEARCH_FACET_SIZE"]

/-- The environment of the program. -/
def readEnvironment : IO (String → Option String) := do
  let given ← variableNames.mapM fun name => return (name, ← IO.getEnv name)
  return fun name => (given.lookup name).join

/-- The present instant. -/
def readClock : IO Instant := do
  let now := (← Std.Time.Timestamp.now).toMillisecondsSinceUnixEpoch
  match Instant.ofMillis? now.val with
  | some instant => return instant
  | none => throw (IO.userError "the clock is outside the calendar")

/-- The place that a host and a port name on the network. -/
def socketAddress (port : UInt16) : IPAddr → SocketAddress
  | .v4 address => .v4 ⟨address, port⟩
  | .v6 address => .v6 ⟨address, port⟩

/-- Receives until the other side closes the connection. -/
partial def receive (client : TCP.Socket.Client) (received : ByteArray) : Async ByteArray := do
  match ← client.recv? 65536 with
  | some bytes => receive client (received ++ bytes)
  | none => return received

/-- Sends a request and receives what it is answered with. -/
def exchange (address : Address) (request : Http.Request) : Async Http.Response := do
  let host := address.host.toList.filter fun c => c ≠ '[' ∧ c ≠ ']'
  let port := address.port.getD 80
  let places ← DNS.getAddrInfo (String.ofList host) (Nat.repr port)
  match places[0]? with
  | none => return .lost "the host is unknown"
  | some place =>
    let client ← TCP.Socket.Client.mk
    client.connect (socketAddress port.toUInt16 place)
    client.send (Http.requestText address request).toUTF8
    let received ← receive client .empty
    return .ofBytes received.toList

/-- Carries a request to a server. -/
def carry (address : Address) (request : Http.Request) : IO Http.Response := do
  if address.scheme ≠ "http" then return .lost ("the scheme " ++ address.scheme ++ " is not supported")
  try (exchange address request).block
  catch failure => return .lost failure.toString

/-- Runs a program of calls against a server. -/
def perform {α : Type} (address : Address) : Program α → IO α
  | .done result => return result
  | .call call next => do
    let response ← carry address (Http.request call)
    perform address (next (Http.reply response call))

/-- Connects as the mode says. -/
partial def connect (settings : ConnectionSettings) : IO (Except ConfigFault Address) := do
  let address := Address.read settings.address
  let response ←
    match address with
    | .ok address => carry address Http.ping
    | .error fault => pure (.lost fault.message)
  match Connection.attempt address response, settings.mode with
  | .ok address, _ => return .ok address
  | .error fault, .failFast => return .error (.connect fault)
  | .error _, .retry =>
    IO.sleep (settings.retrySeconds.toNat * 1000).toUInt32
    connect settings

/-- Runs the program up to what it leaves. -/
def outcome (arguments : List String) : IO CommandLine.Outcome := do
  match CommandLine.prepare arguments (← readEnvironment) with
  | .error outcome => return outcome
  | .ok (parsed, settings) =>
    match ← connect settings with
    | .error fault => return .ofFault fault
    | .ok address => perform address (CommandLine.command parsed settings (← readClock))

end SearchTenancy.Main

/-- Runs one command and exits with its status. -/
def main (arguments : List String) : IO UInt32 := do
  let outcome ← SearchTenancy.Main.outcome arguments
  IO.print outcome.output
  IO.eprint outcome.report
  return outcome.status.toUInt32
