import ImageVerification.Flow.Run

/-! Flows that read clocks and log, and do nothing else.

Such a flow ends at once, and the same way whatever the collaborators are and whatever state they
are in.
-/

namespace ImageVerification.Flow

variable {Call : Type} {Reply : Call → Type} {σ α β : Type}

/-- The result of a quiet flow at a reading of the clocks, and what it logs. -/
inductive Quiet (reading : Reading) : Flow Call Reply α → α → List Event → Prop where
  | done (result : α) : Quiet reading (.done result) result []
  | now {next : Reading → Flow Call Reply α} {result : α} {events : List Event}
      (rest : Quiet reading (next reading) result events)
      : Quiet reading (.now next) result events
  | log {event : Event} {next : Flow Call Reply α} {result : α} {events : List Event}
      (rest : Quiet reading next result events)
      : Quiet reading (.log event next) result (event :: events)

variable {reading : Reading} {flow : Flow Call Reply α} {result : α} {events : List Event}

/-- Quiet flows in a row are quiet, and their events follow each other; by induction on the first.
-/
theorem Quiet.bind {f : α → Flow Call Reply β} {final : β} {more : List Event}
    (first : Quiet reading flow result events) (rest : Quiet reading (f result) final more)
    : Quiet reading (flow.bind f) final (events ++ more) := by
  induction first with
  | done result => exact rest
  | now _ ih => exact .now (ih rest)
  | log _ ih => exact .log (ih rest)

/-- Running a quiet flow leaves everything but the log as it was. -/
theorem Quiet.run (quiet : Quiet reading flow result events) (env : Environment Call Reply σ)
    (limit : Option Instant) (world : World Call σ)
    (read : reading = ⟨world.clock, env.wall world.clock⟩)
    : flow.run env limit world
      = (some result, { world with events := world.events ++ events }) := by
  induction quiet generalizing world with
  | done result => simp only [Flow.run, List.append_nil]
  | now _ ih =>
      simp only [Flow.run, ← read]
      exact ih world read
  | @log event _ _ _ _ ih =>
      simp only [Flow.run]
      rw [ih { world with events := world.events ++ [event] } read]
      simp only [List.append_assoc, List.singleton_append]

end ImageVerification.Flow
