import ImageVerification.Proofs.Flow.Running

/-! The steps of a run: its calls and its waits, each with what came of it. Whatever the
collaborators and the clocks are, a run takes some path through its flow, which is where its events
and its result come from.
-/

namespace ImageVerification.Flow

variable {Call : Type} {Reply : Call → Type} {σ α β : Type}

/-- A call or a wait, and how it has ended if it has. A call that meets an interruption has ended by
it, whether it was begun or not.
-/
inductive Step (Call : Type) (Reply : Call → Type) where
  | called (request : Call) (reply : Option (Except Interrupt (Reply request)))
  | waited (span : Duration) (reply : Option (Except Interrupt Unit))

/-- The steps of a run, up to a limit if there is one. -/
def steps (env : Environment Call Reply σ) (limit : Option Instant)
    : Flow Call Reply α → World Call σ → List (Step Call Reply)
  | done _, _ => []
  | call ctx request next, world =>
      match runCall env limit ctx request world with
      | (some reply, world) => .called request (some reply) :: steps env limit (next reply) world
      | (none, _) => [.called request none]
  | sleep ctx span next, world =>
      match await limit world.clock (ctx.race world.clock (some (world.clock + span.nanos))) with
      | (some reply, clock) =>
          .waited span (some reply) :: steps env limit (next reply) { world with clock }
      | (none, _) => [.waited span none]
  | now next, world => steps env limit (next ⟨world.clock, env.wall world.clock⟩) world
  | fresh next, world =>
      steps env limit (next (env.name world.named)) { world with named := world.named + 1 }
  | log event next, world => steps env limit next { world with events := world.events ++ [event] }

/-- A way through a flow: its steps, what is logged on it, and its result if it comes to one. -/
inductive Path
    : Flow Call Reply α → List (Step Call Reply) → List Event → Option α → Prop where
  | done (result : α) : Path (.done result) [] [] (some result)
  | unanswered {ctx : Context} {request : Call}
      {next : Except Interrupt (Reply request) → Flow Call Reply α}
      : Path (.call ctx request next) [.called request none] [] none
  | call {ctx : Context} {request : Call}
      {next : Except Interrupt (Reply request) → Flow Call Reply α}
      {reply : Except Interrupt (Reply request)} {steps : List (Step Call Reply)}
      {events : List Event} {result : Option α} (rest : Path (next reply) steps events result)
      : Path (.call ctx request next) (.called request (some reply) :: steps) events result
  | unended {ctx : Context} {span : Duration} {next : Except Interrupt Unit → Flow Call Reply α}
      : Path (.sleep ctx span next) [.waited span none] [] none
  | sleep {ctx : Context} {span : Duration} {next : Except Interrupt Unit → Flow Call Reply α}
      {reply : Except Interrupt Unit} {steps : List (Step Call Reply)} {events : List Event}
      {result : Option α} (rest : Path (next reply) steps events result)
      : Path (.sleep ctx span next) (.waited span (some reply) :: steps) events result
  | now {next : Reading → Flow Call Reply α} {reading : Reading} {steps : List (Step Call Reply)}
      {events : List Event} {result : Option α} (rest : Path (next reading) steps events result)
      : Path (.now next) steps events result
  | fresh {next : String → Flow Call Reply α} {name : String} {steps : List (Step Call Reply)}
      {events : List Event} {result : Option α} (rest : Path (next name) steps events result)
      : Path (.fresh next) steps events result
  | log {event : Event} {next : Flow Call Reply α} {steps : List (Step Call Reply)}
      {events : List Event} {result : Option α} (rest : Path next steps events result)
      : Path (.log event next) steps (event :: events) result

/-- A call leaves the log as it is. -/
theorem events_runCall (env : Environment Call Reply σ) (limit : Option Instant) (ctx : Context)
    (request : Call) (world : World Call σ)
    : (runCall env limit ctx request world).2.events = world.events := by
  unfold runCall
  split
  · rfl
  · dsimp only
    split
    · split <;> rfl
    · rfl
    · rfl

/-- Every run takes a path through its flow, by induction on the flow. -/
theorem path_run (env : Environment Call Reply σ) (limit : Option Instant)
    (flow : Flow Call Reply α) (world : World Call σ)
    : ∃ events,
        (flow.run env limit world).2.events = world.events ++ events
        ∧ Path flow (flow.steps env limit world) events (flow.run env limit world).1 := by
  induction flow generalizing world with
  | done result => exact ⟨[], (List.append_nil _).symm, .done result⟩
  | call ctx request next ih =>
      -- A call writes no line itself, so the lines are those of the rest.
      have unlogged := events_runCall env limit ctx request world
      simp only [run, steps]
      rcases called : runCall env limit ctx request world with ⟨_ | reply, middle⟩
      · rw [called] at unlogged
        exact ⟨[], by simpa using unlogged, .unanswered⟩
      · rw [called] at unlogged
        obtain ⟨events, logged, path⟩ := ih reply middle
        exact ⟨events, unlogged ▸ logged, .call path⟩
  | sleep ctx span next ih =>
      simp only [run, steps]
      rcases await limit world.clock (ctx.race world.clock (some (world.clock + span.nanos)))
        with ⟨_ | reply, clock⟩
      · exact ⟨[], (List.append_nil _).symm, .unended⟩
      · obtain ⟨events, logged, path⟩ := ih reply { world with clock }
        exact ⟨events, logged, .sleep path⟩
  | now next ih =>
      obtain ⟨events, logged, path⟩ := ih ⟨world.clock, env.wall world.clock⟩ world
      exact ⟨events, logged, .now path⟩
  | fresh next ih =>
      obtain ⟨events, logged, path⟩ :=
        ih (env.name world.named) { world with named := world.named + 1 }
      exact ⟨events, logged, .fresh path⟩
  | log event next ih =>
      obtain ⟨events, logged, path⟩ := ih { world with events := world.events ++ [event] }
      refine ⟨event :: events, ?_, .log path⟩
      rw [run, logged, List.append_assoc, List.singleton_append]

variable {steps : List (Step Call Reply)} {events : List Event} {ctx : Context}

/-- A flow that is done takes no step and logs nothing. -/
theorem Path.done_eq {value : α} {result : Option α}
    (path : Path (.done value : Flow Call Reply α) steps events result)
    : steps = [] ∧ events = [] ∧ result = some value := by
  cases path
  exact ⟨rfl, rfl, rfl⟩

/-- A flow of a single call takes one step and logs nothing. -/
theorem Path.perform_eq {request : Call} {reply : Option (Except Interrupt (Reply request))}
    (path : Path (perform ctx request) steps events reply)
    : steps = [.called request reply] ∧ events = [] := by
  cases path with
  | unanswered => exact ⟨rfl, rfl⟩
  | call rest =>
      obtain ⟨rfl, rfl, rfl⟩ := rest.done_eq
      exact ⟨rfl, rfl⟩

/-- A flow of a single wait takes one step and logs nothing. -/
theorem Path.pause_eq {span : Duration} {reply : Option (Except Interrupt Unit)}
    (path : Path (pause ctx span : Flow Call Reply _) steps events reply)
    : steps = [.waited span reply] ∧ events = [] := by
  cases path with
  | unended => exact ⟨rfl, rfl⟩
  | sleep rest =>
      obtain ⟨rfl, rfl, rfl⟩ := rest.done_eq
      exact ⟨rfl, rfl⟩

/-- A line of the log comes first and is no step. -/
theorem Path.log_eq {event : Event} {next : Flow Call Reply α} {result : Option α}
    (path : Path (.log event next) steps events result)
    : ∃ later, events = event :: later ∧ Path next steps later result := by
  cases path with
  | log rest => exact ⟨_, rfl, rest⟩

/-- A flow that logs an event and is done. -/
theorem Path.note_done_eq {event : Event} {value : α} {result : Option α}
    (path : Path (.log event (.done value) : Flow Call Reply α) steps events result)
    : steps = [] ∧ events = [event] ∧ result = some value := by
  obtain ⟨later, rfl, rest⟩ := path.log_eq
  obtain ⟨rfl, rfl, rfl⟩ := rest.done_eq
  exact ⟨rfl, rfl, rfl⟩

/-- A path through a composed flow ends in its first part, or goes on from the result of it. -/
inductive BindPath (flow : Flow Call Reply α) (f : α → Flow Call Reply β)
    : List (Step Call Reply) → List Event → Option β → Prop where
  | cut {steps : List (Step Call Reply)} {events : List Event} (first : Path flow steps events none)
      : BindPath flow f steps events none
  | onward {value : α} {early late : List (Step Call Reply)} {noted later : List Event}
      {result : Option β} (first : Path flow early noted (some value))
      (rest : Path (f value) late later result)
      : BindPath flow f (early ++ late) (noted ++ later) result

/-- A path through a composed flow ends within the first part, or goes through it and on through the
second; by induction on the first part, whose kind of step tells how the path begins.
-/
theorem Path.of_bind {flow : Flow Call Reply α} {f : α → Flow Call Reply β} {result : Option β}
    (path : Path (flow.bind f) steps events result)
    : BindPath flow f steps events result := by
  induction flow generalizing steps events with
  | done value => exact .onward (.done value) path
  | call ctx request next ih =>
      cases path with
      -- A call without a reply has no second part to reach.
      | unanswered => exact .cut .unanswered
      | call path =>
          cases ih _ path with
          | cut first => exact .cut (.call first)
          | onward first rest => exact .onward (.call first) rest
  | sleep ctx span next ih =>
      cases path with
      | unended => exact .cut .unended
      | sleep path =>
          cases ih _ path with
          | cut first => exact .cut (.sleep first)
          | onward first rest => exact .onward (.sleep first) rest
  | now next ih =>
      cases path with
      | now path =>
          cases ih _ path with
          | cut first => exact .cut (.now first)
          | onward first rest => exact .onward (.now first) rest
  | fresh next ih =>
      cases path with
      | fresh path =>
          cases ih _ path with
          | cut first => exact .cut (.fresh first)
          | onward first rest => exact .onward (.fresh first) rest
  | log event next ih =>
      cases path with
      | log path =>
          cases ih path with
          | cut first => exact .cut (.log first)
          | onward first rest => exact .onward (.log first) rest

end ImageVerification.Flow
