import ImageVerification.Proofs.Flow.Running

/-! Flows that stop when their context is interrupted.

A flow heeds a context when it races every call and every wait against that context, and stops
whenever a race is lost. Such a flow is over by the interruption, whatever the collaborators do.
-/

namespace ImageVerification

namespace Context

/-- Before the first instant of an interruption, a context is free. -/
theorem interruption_of_before {ctx : Context} {stop now : Instant}
    (first : ctx.interruptAt = some stop) (before : now < stop)
    : ctx.interruption now = none := by
  have allowed : ctx.allows now = true := by simpa [allows, first] using before
  exact interruption_eq_none allowed (Nat.le_refl now)

/-- Which interruption an interrupted context shows: a cancellation if it has fired. -/
def kindAt (ctx : Context) (now : Instant) : Interrupt :=
  if ctx.cancelledAt.any (· ≤ now) then .cancelled else .deadlineExceeded

/-- A context stays interrupted from its first interruption on. -/
theorem interruption_of_after {ctx : Context} {stop now : Instant}
    (first : ctx.interruptAt = some stop) (after : stop ≤ now)
    : ctx.interruption now = some (ctx.kindAt now) := by
  have notFree : ctx.interruption now ≠ none := by
    intro free
    have allowed := (ctx.interruption_eq_none_iff now).mp free
    have before : now < stop := by simpa [allows, first] using allowed
    exact Nat.not_lt_of_le after before
  unfold interruption kindAt at *
  split
  · rfl
  · next uncancelled =>
      -- Only the deadline can have interrupted it.
      rw [if_neg uncancelled] at notFree
      split
      · rfl
      · next inTime => exact absurd (if_neg inTime) notFree

/-- A race begun before the interruption is won before it, or is lost at it. -/
theorem race_cases {ctx : Context} {stop start : Instant} (first : ctx.interruptAt = some stop)
    (before : start < stop) (due : Option Instant)
    : (∃ instant, due = some instant ∧ instant < stop ∧ ctx.race start due = .finished instant)
      ∨ ctx.race start due = .interrupted (ctx.kindAt stop) stop := by
  have free := interruption_of_before first before
  have why := interruption_of_after first (Nat.le_refl stop)
  cases due with
  | none => exact .inr (by simp only [race, free, first, why, Option.getD_some])
  | some instant =>
      by_cases wins : instant < stop
      · exact .inl ⟨instant, rfl, wins, by simp only [race, free, first, if_pos wins]⟩
      · exact .inr (by simp only [race, free, first, if_neg wins, why, Option.getD_some])

end Context

namespace Flow

variable {Call : Type} {Reply : Call → Type} {σ α β : Type}

/-- Once the context is interrupted the flow only loses races, and ends in a result of the given
sort.
-/
def Stops (ctx : Context) (kind : Interrupt) (stopped : α → Prop) : Flow Call Reply α → Prop
  | done result => stopped result
  | call raced _ next => raced = ctx ∧ Stops ctx kind stopped (next (.error kind))
  | sleep raced _ next => raced = ctx ∧ Stops ctx kind stopped (next (.error kind))
  | now next => ∀ reading, Stops ctx kind stopped (next reading)
  | fresh next => ∀ name, Stops ctx kind stopped (next name)
  | log _ next => Stops ctx kind stopped next

/-- Every call and every wait is raced against the context, and the flow stops when one is lost. -/
def Heeds (ctx : Context) (stopped : Interrupt → α → Prop) : Flow Call Reply α → Prop
  | done _ => True
  | call raced _ next =>
      raced = ctx
      ∧ (∀ reply, Heeds ctx stopped (next (.ok reply)))
      ∧ ∀ kind, Stops ctx kind (stopped kind) (next (.error kind))
  | sleep raced _ next =>
      raced = ctx
      ∧ Heeds ctx stopped (next (.ok ()))
      ∧ ∀ kind, Stops ctx kind (stopped kind) (next (.error kind))
  | now next => ∀ reading, Heeds ctx stopped (next reading)
  | fresh next => ∀ name, Heeds ctx stopped (next name)
  | log _ next => Heeds ctx stopped next

/-- A flow that obeys its context heeds it, and stops if it is interrupted from the start. -/
structure Obeys (ctx : Context) (stopped : Interrupt → α → Prop) (flow : Flow Call Reply α)
    : Prop where
  heeds : flow.Heeds ctx stopped
  stops : ∀ kind, flow.Stops ctx kind (stopped kind)

/-- A flow in two parts stops if the first stops and all that may follow does too, by induction on
the first.
-/
theorem Stops.bind {ctx : Context} {kind : Interrupt} {inner : α → Prop} {stopped : β → Prop}
    {flow : Flow Call Reply α} {f : α → Flow Call Reply β} (stops : flow.Stops ctx kind inner)
    (next : ∀ result, inner result → (f result).Stops ctx kind stopped)
    : (flow.bind f).Stops ctx kind stopped := by
  induction flow with
  | done result => exact next result stops
  | call raced request rest ih => exact ⟨stops.1, ih _ stops.2⟩
  | sleep raced span rest ih => exact ⟨stops.1, ih _ stops.2⟩
  | now rest ih => exact fun reading => ih reading (stops reading)
  | fresh rest ih => exact fun name => ih name (stops name)
  | log event rest ih => exact ih stops

/-- A flow in two parts heeds its context if both parts do and the second stops wherever the first
has been interrupted, by induction on the first; an interrupted call hands over to what stops.
-/
theorem Heeds.bind {ctx : Context} {inner : Interrupt → α → Prop}
    {stopped : Interrupt → β → Prop} {flow : Flow Call Reply α} {f : α → Flow Call Reply β}
    (heeds : flow.Heeds ctx inner) (next : ∀ result, (f result).Heeds ctx stopped)
    (halt : ∀ kind result, inner kind result → (f result).Stops ctx kind (stopped kind))
    : (flow.bind f).Heeds ctx stopped := by
  induction flow with
  | done result => exact next result
  | call raced request rest ih =>
      obtain ⟨same, answered, lost⟩ := heeds
      exact ⟨same, fun reply => ih _ (answered reply), fun kind => (lost kind).bind (halt kind)⟩
  | sleep raced span rest ih =>
      obtain ⟨same, waited, lost⟩ := heeds
      exact ⟨same, ih _ waited, fun kind => (lost kind).bind (halt kind)⟩
  | now rest ih => exact fun reading => ih reading (heeds reading)
  | fresh rest ih => exact fun name => ih name (heeds name)
  | log event rest ih => exact ih heeds

/-- The same of flows that also stop when they are begun too late. -/
theorem Obeys.bind {ctx : Context} {inner : Interrupt → α → Prop}
    {stopped : Interrupt → β → Prop} {flow : Flow Call Reply α} {f : α → Flow Call Reply β}
    (obeys : flow.Obeys ctx inner) (next : ∀ result, (f result).Heeds ctx stopped)
    (halt : ∀ kind result, inner kind result → (f result).Stops ctx kind (stopped kind))
    : (flow.bind f).Obeys ctx stopped :=
  ⟨obeys.heeds.bind next halt, fun kind => (obeys.stops kind).bind (halt kind)⟩

/-- Reading the clocks does not make a flow disobey. -/
theorem obeys_now {ctx : Context} {stopped : Interrupt → α → Prop}
    {next : Reading → Flow Call Reply α} (obeys : ∀ reading, (next reading).Obeys ctx stopped)
    : (now next).Obeys ctx stopped :=
  ⟨fun reading => (obeys reading).heeds, fun kind reading => (obeys reading).stops kind⟩

/-- Neither does drawing a name. -/
theorem obeys_fresh {ctx : Context} {stopped : Interrupt → α → Prop}
    {next : String → Flow Call Reply α} (obeys : ∀ name, (next name).Obeys ctx stopped)
    : (fresh next).Obeys ctx stopped :=
  ⟨fun name => (obeys name).heeds, fun kind name => (obeys name).stops kind⟩

/-- Between two worlds of a run, no call is begun at an instant or after it. -/
def BegunBefore (stop : Instant) (world after : World Call σ) : Prop :=
  ∃ made,
    after.calls = world.calls ++ made ∧ ∀ call ∈ made, call.begun = true → call.instant < stop

/-- Two runs in a row begin no call after an instant if neither of them does. -/
theorem BegunBefore.trans {stop : Instant} {world middle after : World Call σ}
    (first : BegunBefore stop world middle) (second : BegunBefore stop middle after)
    : BegunBefore stop world after := by
  obtain ⟨made, grown, early⟩ := first
  obtain ⟨more, grownMore, earlyMore⟩ := second
  refine ⟨made ++ more, by rw [grownMore, grown, List.append_assoc], ?_⟩
  intro call member begun
  rcases List.mem_append.mp member with member | member
  · exact early call member begun
  · exact earlyMore call member begun

/-- A run without calls begins none. -/
theorem begunBefore_of_same_calls {stop : Instant} {world after : World Call σ}
    (same : after.calls = world.calls)
    : BegunBefore stop world after :=
  ⟨[], by rw [same, List.append_nil], fun _ member => absurd member List.not_mem_nil⟩

/-- A run of one call begins none after the instant if that call is not begun or is early. -/
theorem begunBefore_of_call {stop : Instant} {world after : World Call σ} {call : CallRecord Call}
    (grown : after.calls = world.calls ++ [call])
    (early : call.begun = true → call.instant < stop)
    : BegunBefore stop world after := by
  refine ⟨[call], grown, ?_⟩
  intro other member
  rw [List.mem_singleton.mp member]
  exact early

variable (env : Environment Call Reply σ) {ctx : Context} {stop : Instant}

/-- A flow that stops does so on the spot, without beginning a call. By induction on the flow: the
context is interrupted at this instant, and no time passes.
-/
theorem Stops.run {kind : Interrupt} {stopped : α → Prop} {flow : Flow Call Reply α}
    (stops : flow.Stops ctx kind stopped) (stop : Instant) (world : World Call σ)
    (why : ctx.interruption world.clock = some kind)
    : ∃ result after,
        run env none flow world = (some result, after)
        ∧ stopped result
        ∧ after.clock = world.clock
        ∧ BegunBefore stop world after := by
  induction flow generalizing world with
  | done result => exact ⟨result, world, rfl, stops, rfl, begunBefore_of_same_calls rfl⟩
  | call raced request next ih =>
      obtain ⟨rfl, halts⟩ := stops
      let skipped : World Call σ :=
        { world with calls := world.calls ++ [⟨world.clock, request, false⟩] }
      obtain ⟨result, after, ran, stopped, sameClock, early⟩ := ih _ halts skipped why
      have unmade : BegunBefore stop world skipped := begunBefore_of_call rfl (by simp)
      refine ⟨result, after, ?_, stopped, sameClock, unmade.trans early⟩
      simp only [Flow.run, runCall, why]
      exact ran
  | sleep raced span next ih =>
      obtain ⟨rfl, halts⟩ := stops
      obtain ⟨result, after, ran, stopped, sameClock, early⟩ := ih _ halts world why
      refine ⟨result, after, ?_, stopped, sameClock, early⟩
      simp only [Flow.run, Context.race, why, await_interrupted]
      exact ran
  | now next ih => exact ih _ (stops _) world why
  | fresh next ih => exact ih _ (stops _) { world with named := world.named + 1 } why
  | log event next ih => exact ih stops { world with events := world.events ++ [event] } why

/-- A call begun before the interruption is answered before it, or is cut short at it. -/
theorem runCall_cases (request : Call) (world : World Call σ)
    (first : ctx.interruptAt = some stop) (before : world.clock < stop)
    : ∃ reply after,
        runCall env none ctx request world = (some reply, after)
        ∧ BegunBefore stop world after
        ∧ ((∃ value, reply = .ok value) ∧ after.clock < stop
          ∨ reply = .error (ctx.kindAt stop) ∧ after.clock = stop) := by
  have free := Context.interruption_of_before first before
  have begun {after : World Call σ}
      (grown : after.calls = world.calls ++ [⟨world.clock, request, true⟩])
      : BegunBefore stop world after :=
    begunBefore_of_call grown fun _ => before
  rcases accepted : env.accept request world.clock world.state with ⟨conduct, state⟩
  simp only [runCall, free, accepted]
  -- The call can lose its race before its effect or between the effect and the reply.
  rcases Context.race_cases first before (conduct.before.map (world.clock + ·))
    with ⟨effectAt, -, inTime, worked⟩ | lost
  · simp only [worked, await_finished]
    rcases Context.race_cases first inTime (conduct.after.map (effectAt + ·))
      with ⟨replyAt, -, inTime, replied⟩ | lost
    · simp only [replied, await_finished]
      exact ⟨_, _, rfl, begun rfl, .inl ⟨⟨_, rfl⟩, inTime⟩⟩
    · simp only [lost, await_interrupted]
      exact ⟨_, _, rfl, begun rfl, .inr ⟨rfl, rfl⟩⟩
  · simp only [lost, await_interrupted]
    exact ⟨_, _, rfl, begun rfl, .inr ⟨rfl, rfl⟩⟩

/-- A flow that heeds its context is over before the interruption or stops at it. By induction on
the flow: each call and each wait either ends before the interruption, and then the rest of the flow
does what this says, or loses its race, and then the rest stops.
-/
theorem Heeds.run {stopped : Interrupt → α → Prop} {flow : Flow Call Reply α}
    (heeds : flow.Heeds ctx stopped) (world : World Call σ)
    (first : ctx.interruptAt = some stop) (before : world.clock < stop)
    : ∃ result after,
        run env none flow world = (some result, after)
        ∧ BegunBefore stop world after
        ∧ (after.clock < stop ∨ after.clock = stop ∧ stopped (ctx.kindAt stop) result) := by
  have why := Context.interruption_of_after first (Nat.le_refl stop)
  induction flow generalizing world with
  | done result => exact ⟨result, world, rfl, begunBefore_of_same_calls rfl, .inl before⟩
  | call raced request next ih =>
      obtain ⟨rfl, answered, lost⟩ := heeds
      obtain ⟨reply, called, ran, begun, ⟨⟨value, rfl⟩, inTime⟩ | ⟨rfl, atStop⟩⟩ :=
        runCall_cases env request world first before
      · -- The reply comes first, and the rest begins before the interruption.
        obtain ⟨result, after, rest, early, outcome⟩ := ih _ (answered value) called inTime
        refine ⟨result, after, ?_, begun.trans early, outcome⟩
        simp only [Flow.run, ran]
        exact rest
      · -- The interruption comes first, and the rest makes no call from then on.
        obtain ⟨result, after, rest, stopped, sameClock, early⟩ :=
          (lost (raced.kindAt stop)).run env stop called (by rw [atStop]; exact why)
        refine ⟨result, after, ?_, begun.trans early, .inr ⟨sameClock.trans atStop, stopped⟩⟩
        simp only [Flow.run, ran]
        exact rest
  | sleep raced span next ih =>
      obtain ⟨rfl, waited, lost⟩ := heeds
      rcases Context.race_cases first before (some (world.clock + span.nanos))
        with ⟨due, -, inTime, finished⟩ | interrupted
      · obtain ⟨result, after, rest, early, outcome⟩ :=
          ih _ waited { world with clock := due } inTime
        refine ⟨result, after, ?_, early, outcome⟩
        simp only [Flow.run, finished, await_finished]
        exact rest
      · obtain ⟨result, after, rest, stopped, sameClock, early⟩ :=
          (lost _).run env stop { world with clock := stop } why
        refine ⟨result, after, ?_, early, .inr ⟨sameClock, stopped⟩⟩
        simp only [Flow.run, interrupted, await_interrupted]
        exact rest
  | now next ih => exact ih _ (heeds _) world before
  | fresh next ih => exact ih _ (heeds _) { world with named := world.named + 1 } before
  | log event next ih => exact ih heeds { world with events := world.events ++ [event] } before

/-- A flow is prompt when, whatever the collaborators do and whenever it starts, it is over by the
interruption of its context or on the spot if that has passed, begins no call from the interruption
on, and unless it was over before ends in the sort of result that the interruption demands.
-/
def Prompt (ctx : Context) (stopped : Interrupt → α → Prop) (flow : Flow Call Reply α) : Prop :=
  ∀ {σ : Type} (env : Environment Call Reply σ) (world : World Call σ) (stop : Instant),
    ctx.interruptAt = some stop
    → ∃ result after,
        run env none flow world = (some result, after)
        ∧ after.clock ≤ max world.clock stop
        ∧ BegunBefore stop world after
        ∧ (max world.clock stop ≤ after.clock
          → stopped (ctx.kindAt (max world.clock stop)) result)

/-- A flow that obeys its context is prompt. Started before the interruption, it heeds it; started
later, it stops on the spot.
-/
theorem Obeys.prompt {stopped : Interrupt → α → Prop} {flow : Flow Call Reply α}
    (obeys : flow.Obeys ctx stopped)
    : flow.Prompt ctx stopped := by
  intro σ env world stop first
  -- Started before the interruption, the flow heeds it; started later, it stops on the spot.
  rcases Nat.lt_or_ge world.clock stop with before | late
  · obtain ⟨result, after, ran, early, outcome⟩ := obeys.heeds.run env world first before
    have latest : max world.clock stop = stop := Nat.max_eq_right (Nat.le_of_lt before)
    rw [latest]
    refine ⟨result, after, ran, ?_, early, ?_⟩
    · rcases outcome with inTime | ⟨atStop, -⟩
      · exact Nat.le_of_lt inTime
      · exact Nat.le_of_eq atStop
    · intro reached
      rcases outcome with inTime | ⟨-, stopped⟩
      · exact absurd reached (Nat.not_le_of_lt inTime)
      · exact stopped
  · have why := Context.interruption_of_after first late
    obtain ⟨result, after, ran, stopped, sameClock, early⟩ := (obeys.stops _).run env stop world why
    rw [Nat.max_eq_left late]
    exact ⟨result, after, ran, Nat.le_of_eq sameClock, early, fun _ => stopped⟩

end Flow

end ImageVerification
