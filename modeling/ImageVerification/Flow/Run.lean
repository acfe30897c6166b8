import ImageVerification.Flow

/-! Running flows in virtual time.

A collaborator's answer to a call is its conduct: how long until the call takes effect, the effect
on the state of the world, and how long until the reply. Time stands still while a flow computes
and moves when it waits.
-/

namespace ImageVerification

/-- The conduct of one call; a time of `none` never ends. -/
structure Conduct (σ ρ : Type) where
  before : Option Nat
  effect : Instant → σ → ρ × σ
  after : Option Nat

structure Environment (Call : Type) (Reply : Call → Type) (σ : Type) where
  /-- Accepts a call: its conduct, and the state once the call has been accepted. -/
  accept : (request : Call) → Instant → σ → Conduct σ (Reply request) × σ
  wall : Instant → Timestamp
  name : Nat → String

/-- A call that meets an interrupted context is not begun. -/
structure CallRecord (Call : Type) where
  instant : Instant
  request : Call
  begun : Bool

structure World (Call σ : Type) where
  clock : Instant
  state : σ
  named : Nat
  events : List Event
  calls : List (CallRecord Call)

namespace World

def start {Call σ : Type} (state : σ) : World Call σ := ⟨0, state, 0, [], []⟩

end World

namespace Flow

variable {Call : Type} {Reply : Call → Type} {σ α : Type}

/-- Whether something due at an instant still happens under a limit, which comes first if both are
due together.
-/
def within (limit : Option Instant) (due : Instant) : Bool := limit.all (due < ·)

/-- Lets time pass until a race ends; nothing is left when the limit comes before that. -/
def await (limit : Option Instant) (clock : Instant) (race : Context.Race)
    : Option (Except Interrupt Unit) × Instant :=
  match race with
  | .finished due =>
      if within limit due then (some (.ok ()), due) else (none, limit.getD clock)
  | .interrupted kind stop =>
      if within limit stop then (some (.error kind), stop) else (none, limit.getD clock)
  | .pending => (none, limit.getD clock)

/-- One call: the effect takes place unless an interruption or the limit comes first. -/
def runCall (env : Environment Call Reply σ) (limit : Option Instant) (ctx : Context)
    (request : Call) (world : World Call σ)
    : Option (Except Interrupt (Reply request)) × World Call σ :=
  match ctx.interruption world.clock with
  | some kind =>
      (some (.error kind),
        { world with calls := world.calls ++ [⟨world.clock, request, false⟩] })
  | none =>
      let calls := world.calls ++ [⟨world.clock, request, true⟩]
      let (conduct, state) := env.accept request world.clock world.state
      let effectAt := conduct.before.map (world.clock + ·)
      match await limit world.clock (ctx.race world.clock effectAt) with
      | (some (.ok ()), clock) =>
          let (reply, state) := conduct.effect clock state
          let replyAt := conduct.after.map (clock + ·)
          match await limit clock (ctx.race clock replyAt) with
          | (some (.ok ()), clock) => (some (.ok reply), { world with clock, state, calls })
          | (some (.error kind), clock) =>
              (some (.error kind), { world with clock, state, calls })
          | (none, clock) => (none, { world with clock, state, calls })
      | (some (.error kind), clock) => (some (.error kind), { world with clock, state, calls })
      | (none, clock) => (none, { world with clock, state, calls })

/-- Runs a flow to its result, or up to a limit when it has no result by then. -/
def run (env : Environment Call Reply σ) (limit : Option Instant)
    : Flow Call Reply α → World Call σ → Option α × World Call σ
  | done result, world => (some result, world)
  | call ctx request next, world =>
      match runCall env limit ctx request world with
      | (some reply, world) => run env limit (next reply) world
      | (none, world) => (none, world)
  | sleep ctx span next, world =>
      let due := some (world.clock + span.nanos)
      match await limit world.clock (ctx.race world.clock due) with
      | (some reply, clock) => run env limit (next reply) { world with clock }
      | (none, clock) => (none, { world with clock })
  | now next, world => run env limit (next ⟨world.clock, env.wall world.clock⟩) world
  | fresh next, world =>
      run env limit (next (env.name world.named)) { world with named := world.named + 1 }
  | log event next, world =>
      run env limit next { world with events := world.events ++ [event] }

end Flow

end ImageVerification
