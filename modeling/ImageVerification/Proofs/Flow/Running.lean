import ImageVerification.Flow.Run

/-! Running composed flows, and calls that end before any interruption. -/

namespace ImageVerification

namespace Context

/-- A context is free at an instant exactly when it allows work to fall due then. -/
theorem interruption_eq_none_iff (ctx : Context) (now : Instant)
    : ctx.interruption now = none ↔ ctx.allows now = true := by
  unfold interruption allows interruptAt
  cases ctx.cancelledAt <;> cases ctx.deadline <;> simp [earlier]
  grind

/-- An interrupted context does not allow anything to be done. -/
theorem allows_eq_false {ctx : Context} {now : Instant} {kind : Interrupt}
    (why : ctx.interruption now = some kind)
    : ctx.allows now = false := by
  cases allowed : ctx.allows now with
  | false => rfl
  | true =>
      rw [(ctx.interruption_eq_none_iff now).mpr allowed] at why
      cases why

/-- A context that allows what falls due at an instant is free up to that instant. -/
theorem interruption_eq_none {ctx : Context} {due now : Instant} (allowed : ctx.allows due = true)
    (early : now ≤ due)
    : ctx.interruption now = none := by
  refine (ctx.interruption_eq_none_iff now).mpr ?_
  unfold allows at allowed ⊢
  cases stop : ctx.interruptAt with
  | none => rfl
  | some stop' =>
      have before : due < stop' := by simpa [stop] using allowed
      simpa using Nat.lt_of_le_of_lt early before

/-- Work that falls due while the context allows it wins its race. -/
theorem race_eq_finished {ctx : Context} {start due : Instant} (allowed : ctx.allows due = true)
    (early : start ≤ due)
    : ctx.race start (some due) = .finished due := by
  have free := interruption_eq_none allowed early
  unfold allows at allowed
  cases stop : ctx.interruptAt with
  | none => simp only [race, free, stop]
  | some stop' =>
      have before : due < stop' := by simpa [stop] using allowed
      simp only [race, free, stop, if_pos before]

/-- Work that falls due at all ends its race by then, unless the context is interrupted first. -/
theorem race_some (ctx : Context) {start due : Instant} (early : start ≤ due)
    : ctx.race start (some due) = .finished due
      ∨ ∃ kind stop,
          ctx.race start (some due) = .interrupted kind stop
          ∧ start ≤ stop
          ∧ stop ≤ due
          ∧ ctx.allows stop = false := by
  by_cases allowed : ctx.allows due = true
  · exact .inl (race_eq_finished allowed early)
  obtain ⟨first, isFirst, before⟩ : ∃ first, ctx.interruptAt = some first ∧ first ≤ due := by
    cases isFirst : ctx.interruptAt with
    | none => exact absurd (by simp [allows, isFirst]) allowed
    | some first => exact ⟨first, rfl, by simpa [allows, isFirst] using allowed⟩
  right
  cases free : ctx.interruption start with
  | some kind =>
      have lost : ctx.race start (some due) = .interrupted kind start := by simp only [race, free]
      exact ⟨kind, start, lost, Nat.le_refl start, early, allows_eq_false free⟩
  | none =>
      have inTime : start < first := by
        simpa [allows, isFirst] using (ctx.interruption_eq_none_iff start).mp free
      refine ⟨(ctx.interruption first).getD .deadlineExceeded, first, ?_, Nat.le_of_lt inTime,
        before, by simp [allows, isFirst]⟩
      simp only [race, free, isFirst, if_neg (Nat.not_lt_of_le before)]

/-- What is allowed at an instant is allowed earlier too. -/
theorem allows_of_le {ctx : Context} {due earlier : Instant} (allowed : ctx.allows due = true)
    (early : earlier ≤ due)
    : ctx.allows earlier = true :=
  (ctx.interruption_eq_none_iff earlier).mp (interruption_eq_none allowed early)

end Context

namespace Flow

variable {Call : Type} {Reply : Call → Type} {σ α β : Type}

@[simp]
theorem bind_eq_bind (flow : Flow Call Reply α) (f : α → Flow Call Reply β)
    : (flow >>= f) = flow.bind f := rfl

/-- A composed flow runs its first part and then, if that has a result, what follows it. -/
theorem run_bind (env : Environment Call Reply σ) (limit : Option Instant)
    (flow : Flow Call Reply α) (f : α → Flow Call Reply β) (world : World Call σ)
    : run env limit (flow.bind f) world
      = match run env limit flow world with
        | (some result, world) => run env limit (f result) world
        | (none, world) => (none, world) := by
  induction flow generalizing world with
  | done result => rfl
  | call ctx request next ih =>
      simp only [bind, run]
      cases runCall env limit ctx request world with
      | mk reply world =>
          cases reply with
          | none => rfl
          | some reply => exact ih reply world
  | sleep ctx span next ih =>
      simp only [bind, run]
      cases await limit world.clock (ctx.race world.clock (some (world.clock + span.nanos))) with
      | mk reply clock =>
          cases reply with
          | none => rfl
          | some reply => exact ih reply { world with clock }
  | now next ih => exact ih ⟨world.clock, env.wall world.clock⟩ world
  | fresh next ih => exact ih (env.name world.named) { world with named := world.named + 1 }
  | log event next ih => exact ih { world with events := world.events ++ [event] }

@[simp]
theorem await_finished (clock due : Instant)
    : await none clock (.finished due) = (some (.ok ()), due) := rfl

@[simp]
theorem await_interrupted (clock stop : Instant) (kind : Interrupt)
    : await none clock (.interrupted kind stop) = (some (.error kind), stop) := rfl

@[simp]
theorem await_pending (clock : Instant) : await none clock .pending = (none, clock) := rfl

/-- A call whose reply falls due while the context allows it is answered, and its effect has taken
place in between.
-/
theorem runCall_of_allows {env : Environment Call Reply σ} {ctx : Context} {request : Call}
    {world : World Call σ} {conduct : Conduct σ (Reply request)} {state : σ} {before after : Nat}
    (accepted : env.accept request world.clock world.state = (conduct, state))
    (worked : conduct.before = some before) (replied : conduct.after = some after)
    (allowed : ctx.allows (world.clock + before + after) = true)
    : runCall env none ctx request world
      = (some (.ok (conduct.effect (world.clock + before) state).1),
          {
            world with
            clock := world.clock + before + after
            state := (conduct.effect (world.clock + before) state).2
            calls := world.calls ++ [⟨world.clock, request, true⟩]
          }) := by
  have inTime : world.clock + before ≤ world.clock + before + after := Nat.le_add_right _ _
  have free := Context.interruption_eq_none allowed
    (Nat.le_trans (Nat.le_add_right world.clock before) inTime)
  have effected := Context.race_eq_finished (Context.allows_of_le allowed inTime)
    (Nat.le_add_right world.clock before)
  have answered := Context.race_eq_finished allowed inTime
  simp only [runCall, free, accepted, worked, replied, Option.map_some, effected, answered,
    await_finished]

/-- A wait that is over while the context allows it takes its whole span. -/
theorem run_pause_of_allows {env : Environment Call Reply σ} {ctx : Context} {span : Duration}
    {world : World Call σ} (allowed : ctx.allows (world.clock + span.nanos) = true)
    : run env none (pause ctx span) world
      = (some (.ok ()), { world with clock := world.clock + span.nanos }) := by
  have finished := Context.race_eq_finished allowed (Nat.le_add_right world.clock span.nanos)
  simp only [pause, run, finished, await_finished]

end Flow

end ImageVerification
