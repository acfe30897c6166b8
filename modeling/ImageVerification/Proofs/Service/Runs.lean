import ImageVerification.Proofs.Flow.Running
import ImageVerification.Proofs.Service.System

/-! Running an operation on its own is one way in which the service can be at work. -/

namespace ImageVerification

open Collaborator

namespace InMemory

variable {verdict : Except ScorerFault Verdict} {wall : Instant → Timestamp} {name : Nat → String}

/-- A call that is begun is answered on the spot. -/
theorem runCall_environment {ctx : Context} {request : Call} {world : World Call InMemory}
    (free : ctx.interruption world.clock = none)
    : Flow.runCall (environment verdict wall name) none ctx request world
      = (some (.ok (answer verdict world.clock world.state request).1),
          {
            world with
            state := (answer verdict world.clock world.state request).2
            calls := world.calls ++ [⟨world.clock, request, true⟩]
          }) := by
  have allowed := (ctx.interruption_eq_none_iff world.clock).mp free
  have finished := Context.race_eq_finished allowed (Nat.le_refl world.clock)
  simp only [Flow.runCall, free, environment, Option.map_some, Nat.add_zero, finished,
    Flow.await_finished]

end InMemory

namespace Service

variable {name : Nat → String}

/-- The state in which a run of a job has left the service. -/
def State.after (state : State) (index : Nat) (job : Job) (world : World Call InMemory) : State :=
  ⟨world.clock, ⟨world.state, world.named⟩, state.jobs.set index job⟩

/-- The world in which the job at an index is run next. -/
structure Runs (state : State) (index : Nat) (job : Job) (world : World Call InMemory) : Prop where
  found : state.jobs[index]? = some job
  clock : world.clock = state.clock
  shared : state.shared = ⟨world.state, world.named⟩

theorem Runs.after {state : State} {index : Nat} {job : Job} {world : World Call InMemory}
    (runs : Runs state index job world) (next : Job) (later : World Call InMemory)
    : Runs (state.after index next later) index next later := by
  obtain ⟨inRange, -⟩ := List.getElem?_eq_some_iff.mp runs.found
  exact ⟨by simp [State.after, inRange], rfl, rfl⟩

theorem State.after_after (state : State) (index : Nat) (job next : Job)
    (world later : World Call InMemory)
    : (state.after index job world).after index next later = state.after index next later := by
  simp [State.after]

/-- A step of the job that is run, after some time, leads to what can come of the next job. -/
theorem Runs.steps {state final : State} {index : Nat} {job next : Job}
    {world later : World Call InMemory} (runs : Runs state index job world)
    (rest : Steps name (state.after index next later) final) (passed : world.clock ≤ later.clock)
    (advances : Advances name later.clock ⟨world.state, world.named⟩ job
      ⟨later.state, later.named⟩ next)
    : Steps name state final := by
  have elapsed : Step name state
      { state with clock := state.clock + (later.clock - state.clock) } :=
    .elapse state (later.clock - state.clock)
  have clock : state.clock + (later.clock - state.clock) = later.clock := by
    have same := runs.clock
    exact Nat.add_sub_of_le (same ▸ passed)
  rw [clock] at elapsed
  have moved : Step name { state with clock := later.clock } (state.after index next later) :=
    .advance runs.found (runs.shared ▸ advances)
  exact .head elapsed (.head moved rest)

/-- A job that is run goes through steps of the service, by induction on what it has left to do. -/
theorem Runs.run {verdict : Except ScorerFault Verdict} {wall : Instant → Timestamp}
    {operation : Operation} {flow : Action Answer} {index : Nat} {names : List String}
    {state : State} {world after : World Call InMemory} {answer : Answer}
    (runs : Runs state index ⟨operation, names, flow⟩ world)
    (ran : flow.run (InMemory.environment verdict wall name) none world = (some answer, after))
    : ∃ drawn, Steps name state (state.after index ⟨operation, drawn, .done answer⟩ after) := by
  induction flow generalizing names state world with
  | done result =>
      cases ran
      obtain ⟨inRange, same⟩ := List.getElem?_eq_some_iff.mp runs.found
      refine ⟨names, ?_⟩
      have unchanged : state.after index ⟨operation, names, .done answer⟩ after = state := by
        simp only [State.after, ← same, List.set_getElem_self, runs.clock, ← runs.shared]
      rw [unchanged]
  | call ctx request next ih =>
      cases free : ctx.interruption world.clock with
      | some kind =>
          -- A call that is not begun leaves the backends as they are.
          let skipped : World Call InMemory :=
            { world with calls := world.calls ++ [⟨world.clock, request, false⟩] }
          simp only [Flow.run, Flow.runCall, free] at ran
          obtain ⟨drawn, steps⟩ := ih _ (runs.after _ skipped) ran
          rw [State.after_after] at steps
          exact ⟨drawn, runs.steps steps (Nat.le_refl _) (.call (.interrupted kind .untouched))⟩
      | none =>
          simp only [Flow.run, InMemory.runCall_environment free] at ran
          obtain ⟨drawn, steps⟩ := ih _ (runs.after _ _) ran
          rw [State.after_after] at steps
          exact ⟨drawn, runs.steps steps (Nat.le_refl _) (.call (.answered verdict))⟩
  | sleep ctx span next ih =>
      -- A wait ends when it is over or when it is interrupted, and not before it began.
      obtain ⟨reply, clock, passed, waited⟩
          : ∃ reply clock,
              world.clock ≤ clock
              ∧ Flow.await none world.clock (ctx.race world.clock (some (world.clock + span.nanos)))
                = (some reply, clock) := by
        rcases ctx.race_some (Nat.le_add_right world.clock span.nanos)
          with finished | ⟨kind, stop, interrupted, begun, -, -⟩
        · exact ⟨_, _, Nat.le_add_right _ _, by rw [finished, Flow.await_finished]⟩
        · exact ⟨_, _, begun, by rw [interrupted, Flow.await_interrupted]⟩
      simp only [Flow.run, waited] at ran
      obtain ⟨drawn, steps⟩ := ih _ (runs.after _ { world with clock }) ran
      rw [State.after_after] at steps
      exact ⟨drawn, runs.steps steps passed (.sleep reply)⟩
  | now next ih =>
      obtain ⟨drawn, steps⟩ := ih _ (runs.after _ world) ran
      rw [State.after_after] at steps
      exact ⟨drawn, runs.steps steps (Nat.le_refl _) (.now (wall world.clock))⟩
  | fresh next ih =>
      obtain ⟨drawn, steps⟩ := ih _ (runs.after _ { world with named := world.named + 1 }) ran
      rw [State.after_after] at steps
      exact ⟨drawn, runs.steps steps (Nat.le_refl _) .fresh⟩
  | log event next ih =>
      obtain ⟨drawn, steps⟩ :=
        ih (runs.after _ { world with events := world.events ++ [event] }) ran
      rw [State.after_after] at steps
      exact ⟨drawn, runs.steps steps (Nat.le_refl _) .log⟩

/-- An operation that is run on its own is one of the jobs of the service from then on. -/
theorem steps_of_run {verdict : Except ScorerFault Verdict} {wall : Instant → Timestamp}
    (state : State) {events : List Event} {calls : List (CallRecord Call)} {ctx : Context}
    {operation : Operation} {answer : Answer} {after : World Call InMemory}
    (ran : (operation.flow ctx).run (InMemory.environment verdict wall name) none
        ⟨state.clock, state.shared.backends, state.shared.named, events, calls⟩
      = (some answer, after))
    : ∃ drawn,
        Steps name state
          ⟨after.clock, ⟨after.state, after.named⟩,
            state.jobs ++ [⟨operation, drawn, .done answer⟩]⟩ := by
  let begun : State := { state with jobs := state.jobs ++ [⟨operation, [], operation.flow ctx⟩] }
  have runs : Runs begun state.jobs.length ⟨operation, [], operation.flow ctx⟩
      ⟨state.clock, state.shared.backends, state.shared.named, events, calls⟩ :=
    ⟨by simp [begun], rfl, rfl⟩
  obtain ⟨drawn, steps⟩ := runs.run ran
  refine ⟨drawn, .head (.begin state ctx operation) ?_⟩
  simpa [State.after, begun] using steps

end Service

end ImageVerification
