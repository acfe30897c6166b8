import ImageVerification.Api.Router
import ImageVerification.Simulation.Script

/-! Sessions: a service and its router over scripted collaborators in memory, used step by step.

Generated request ids are numbered. The limiter's clock stands still, whatever time passes.
-/

namespace ImageVerification.Simulation

open Collaborator

structure Session where
  world : World Call Stage
  router : Router
  limiter : Http.Limiter
  scope : DuplicateScope
  /-- What the wall clock shows at the start, in seconds since the start of 1970. -/
  epoch : Int

namespace Session

def start (router : Router) (scope : DuplicateScope) (epoch : Int) : Session :=
  ⟨.start .empty, router, .empty, scope, epoch⟩

/-- A request id, told apart from others by its number. -/
def requestId (number : Nat) : String :=
  "9b2d41c6-7f3a-4e58-a1b0-" ++ String.ofList (Encoding.Hex.padded 12 number)

def wall (session : Session) (instant : Instant) : Timestamp :=
  (Timestamp.ofUnixNanos? (session.epoch * 1000000000 + instant)).getD .epoch

def environment (session : Session) : Environment Call Reply Stage :=
  Stage.environment session.wall requestId

def now (session : Session) : Instant := session.world.clock

def backends (session : Session) : InMemory := session.world.state.backends

def withState (session : Session) (state : Stage) : Session :=
  { session with world := { session.world with state } }

def withLedger (session : Session) (ledger : Ledger) : Session :=
  session.withState { session.world.state with backends := { session.backends with ledger } }

def withCache (session : Session) (cache : ExpiringMap) : Session :=
  session.withState { session.world.state with backends := { session.backends with cache } }

def enqueue (session : Session) (method : Method) (acts : List Act) : Session :=
  session.withState (session.world.state.enqueue method acts)

/-- Forgets the calls and events so far. -/
def forget (session : Session) : Session :=
  { session with world := { session.world with events := [], calls := [] } }

def wait (session : Session) (span : Nat) : Session :=
  { session with world := { session.world with clock := session.now + span } }

def begunCalls (session : Session) : List (CallRecord Call) := session.world.calls.filter (·.begun)

/-- Runs an action to its end. -/
def perform {α : Type} (session : Session) (action : Action α) : Option α × Session :=
  let (result, world) := action.run session.environment none session.world
  (result, { session with world })

/-- Serves a request. The number of a verification that has not reached the cache is used again. -/
def serve (session : Session) (request : Http.Request) : Option Http.Response × Session :=
  let (response, limiter, world) :=
    session.router.serve session.environment session.limiter 0 request session.world
  let marked :=
    world.calls.any fun call => call.begun && Method.ofCall call.request = .cacheSet
  let named := if marked then world.named else session.world.named
  (response, { session with limiter, world := { world with named } })

end Session

end ImageVerification.Simulation
