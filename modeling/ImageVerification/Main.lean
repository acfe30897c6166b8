import ImageVerification.Encoding.Uuid
import ImageVerification.Http.Wire
import ImageVerification.Startup
import Std.Async
import Std.Time

/-! The server as a program.

Records and cached values are kept in memory, and requests are answered one after the other. The
program has no connections to a database, a Redis server or a scorer of its own: opening one fails,
and a verification that reaches the scorer is refused as unavailable.
-/

open ImageVerification
open Std.Async

namespace ImageVerification.Program

def now : IO Timestamp := do
  let nanos := (← Std.Time.Timestamp.now).toNanosecondsSinceUnixEpoch.val
  return (Timestamp.ofUnixNanos? nanos).getD .epoch

def environmentVariables : IO Variables := do
  let mut found := []
  for name in Startup.variableNames do
    if let some value ← IO.getEnv name then
      found := found ++ [(name, Encoding.Utf8.encode value)]
  return found

def printLine (filter : LogFilter) (line : LogLine) : IO Unit := do
  if filter.shows line then
    IO.println s!"{String.ofList (← now).render} {line.render}"

def hostAddress (address : SocketAddress) : Option Std.Net.SocketAddress :=
  let port := UInt16.ofNat address.port
  let host := String.ofList address.host.render
  match address.host with
  | .v4 _ => (Std.Net.IPv4Addr.ofString host).map fun addr => .v4 ⟨addr, port⟩
  | .v6 _ => (Std.Net.IPv6Addr.ofString host).map fun addr => .v6 ⟨addr, port⟩

def peerAddress : Std.Net.SocketAddress → Option SocketAddress
  | .v4 peer => SocketAddress.parse? s!"{peer.addr.toString}:{peer.port}"
  | .v6 peer => SocketAddress.parse? s!"[{peer.addr.toString}]:{peer.port}"

/-- What lasts from one request to the next. -/
structure Memory where
  backends : InMemory
  limiter : Http.Limiter

def unreachable : ScorerFault := .transport "no connection to a scorer"

/-- Answers a request and logs what happened. -/
def respond (filter : LogFilter) (router : Router) (memory : IO.Ref Memory)
    (request : Http.Request) : IO Http.Response := do
  let ⟨backends, limiter⟩ ← memory.get
  let wall ← now
  let clock ← IO.monoNanosNow
  let id := Encoding.Uuid.ofRandom (← IO.getRandomBytes 16).toList
  let environment := InMemory.environment (.error unreachable) (fun _ => wall) (fun _ => id)
  let world := { World.start backends with clock }
  let (response, limiter, world) := router.serve environment limiter clock request world
  memory.set ⟨world.state, limiter⟩
  for event in world.events do
    printLine filter ⟨Startup.serverTarget, event⟩
  return response.getD (.empty 500)

/-- Reads a request from a connection and answers it. -/
partial def converse (answer : Http.Request → IO Http.Response) (client : TCP.Socket.Client)
    (received : Bytes) : Async Unit := do
  let peer := peerAddress (← client.getPeerName)
  match Http.Arrival.ofBytes peer received with
  | .complete request => client.send ⟨(← answer request).toBytes.toArray⟩
  | .malformed => client.send ⟨(Http.Response.empty 400).toBytes.toArray⟩
  | .incomplete =>
      if let some chunk ← client.recv? 65536 then
        converse answer client (received ++ chunk.toList)

/-- Answers clients until a signal comes. -/
partial def accept (answer : Http.Request → IO Http.Response) (server : TCP.Socket.Server)
    (interrupted terminated : Signal.Waiter) : Async ImageVerification.Signal := do
  let next ← Selectable.one #[
    .case server.acceptSelector fun client => return Except.ok client,
    .case interrupted.selector fun _ => return Except.error ImageVerification.Signal.interrupt,
    .case terminated.selector fun _ => return Except.error ImageVerification.Signal.terminate]
  match next with
  | .error signal => return signal
  | .ok client =>
      try converse answer client [] catch _ => pure ()
      accept answer server interrupted terminated

def listen (server : TCP.Socket.Server) (address : SocketAddress) : IO (Except String Unit) := do
  match hostAddress address with
  | none => return .error "address not available"
  | some address =>
      try
        server.bind address
        server.listen 128
        return .ok ()
      catch failure => return .error (toString failure)

def surroundings (filter : LogFilter) (server : TCP.Socket.Server) (memory : IO.Ref Memory)
    : Startup.Surroundings IO :=
  {
    log := printLine filter
    openStore := fun _ => return .error (.unavailable "no connection to a database")
    openCache := fun _ => return .error (.unavailable "no connection to a Redis server" false)
    listen := listen server
    serve := fun router => do
      let interrupted ← Signal.Waiter.mk .sigint false
      let terminated ← Signal.Waiter.mk .sigterm false
      Async.block (accept (respond filter router memory) server interrupted terminated)
  }

end ImageVerification.Program

open ImageVerification in
def main : IO UInt32 := do
  let given ← Program.environmentVariables
  let memory ← IO.mkRef (Program.Memory.mk .empty .empty)
  let world := Program.surroundings (Startup.filterOf given) (← TCP.Socket.Server.mk) memory
  match ← (Startup.run world given).run with
  | .ok () => return 0
  | .error failure =>
      IO.eprint failure.render
      return UInt32.ofNat failure.exitCode
