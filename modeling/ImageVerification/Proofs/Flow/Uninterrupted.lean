import ImageVerification.Proofs.Flow.Asks
import ImageVerification.Proofs.Flow.Interruption

/-! Flows among collaborators that answer every call in time: they come to an end, and what holds of
every flow whose races are won holds of a run that ends before any interruption.
-/

namespace ImageVerification

/-- Whenever this call is made, it takes effect and is answered some time. -/
def Environment.Answers {Call : Type} {Reply : Call → Type} {σ : Type}
    (env : Environment Call Reply σ) (request : Call)
    : Prop :=
  ∀ now state, ∃ before after,
    (env.accept request now state).1.before = some before
    ∧ (env.accept request now state).1.after = some after

/-- Every call takes effect and is answered some time. -/
def Environment.Timely {Call : Type} {Reply : Call → Type} {σ : Type}
    (env : Environment Call Reply σ)
    : Prop :=
  ∀ request now state, ∃ before after,
    (env.accept request now state).1.before = some before
    ∧ (env.accept request now state).1.after = some after

namespace Flow

variable {Call : Type} {Reply : Call → Type} {σ α β : Type} {env : Environment Call Reply σ}

/-- A call that is answered with what came of its effect at an instant. -/
structure Answered (env : Environment Call Reply σ) (request : Call) (world after : World Call σ)
    (reply : Reply request) (instant : Instant)
    : Prop where
  begun : world.clock ≤ instant
  ended : instant ≤ after.clock
  effect :
    (env.accept request world.clock world.state).1.effect instant
        (env.accept request world.clock world.state).2
      = (reply, after.state)

/-- A call that is answered in the end is either answered as such or interrupted, and in the latter
case the context does not allow anything from then on.
-/
theorem runCall_of_answers {request : Call} (answers : env.Answers request) (ctx : Context)
    (world : World Call σ)
    : ∃ reply after,
        runCall env none ctx request world = (some reply, after)
        ∧ world.clock ≤ after.clock
        ∧ ((∃ value instant, reply = .ok value ∧ Answered env request world after value instant)
          ∨ (∃ kind, reply = .error kind) ∧ ctx.allows after.clock = false) := by
  cases free : ctx.interruption world.clock with
  | some kind =>
      have stopped := Context.allows_eq_false free
      let skipped : World Call σ :=
        { world with calls := world.calls ++ [⟨world.clock, request, false⟩] }
      refine ⟨.error kind, skipped, ?_, Nat.le_refl _, .inr ⟨⟨kind, rfl⟩, stopped⟩⟩
      simp only [runCall, free, skipped]
  | none =>
      obtain ⟨before, after, worked, replied⟩ := answers world.clock world.state
      rcases accepted : env.accept request world.clock world.state with ⟨conduct, state⟩
      simp only [accepted] at worked replied
      simp only [runCall, free, accepted, worked, replied, Option.map_some]
      have early : world.clock ≤ world.clock + before := Nat.le_add_right _ _
      -- The call can lose its race before its effect or between the effect and the reply.
      rcases ctx.race_some early with effected | ⟨kind, stop, lost, begun, -, stopped⟩
      · rcases ctx.race_some (Nat.le_add_right (world.clock + before) after)
          with answered | ⟨kind, stop, lost, begun, -, stopped⟩
        · simp only [effected, answered, await_finished]
          exact ⟨_, _, rfl, Nat.le_trans early (Nat.le_add_right _ _),
            .inl ⟨_, world.clock + before, rfl, early, Nat.le_add_right _ _, by rw [accepted]⟩⟩
        · simp only [effected, lost, await_finished, await_interrupted]
          exact ⟨_, _, rfl, Nat.le_trans early begun, .inr ⟨⟨kind, rfl⟩, stopped⟩⟩
      · simp only [lost, await_interrupted]
        exact ⟨_, _, rfl, begun, .inr ⟨⟨kind, rfl⟩, stopped⟩⟩

/-- A flow that only makes calls which are answered comes to an end, and time does not run
backwards.
-/
theorem Asks.run_of_answers {flow : Flow Call Reply α}
    (asks : flow.Asks env.Answers fun _ => True) (world : World Call σ)
    : ∃ result after,
        run env none flow world = (some result, after) ∧ world.clock ≤ after.clock := by
  induction flow generalizing world with
  | done result => exact ⟨result, world, rfl, Nat.le_refl _⟩
  | call ctx request next ih =>
      obtain ⟨answers, rest⟩ := asks
      obtain ⟨reply, called, ran, passed, -⟩ := runCall_of_answers answers ctx world
      obtain ⟨result, after, ended, later⟩ := ih reply (rest reply) called
      refine ⟨result, after, ?_, Nat.le_trans passed later⟩
      simp only [run, ran, ended]
  | sleep ctx span next ih =>
      rcases ctx.race_some (Nat.le_add_right world.clock span.nanos)
        with finished | ⟨kind, stop, interrupted, begun, -, -⟩
      · obtain ⟨result, after, ended, later⟩ :=
          ih (.ok ()) (asks (.ok ())) { world with clock := world.clock + span.nanos }
        refine ⟨result, after, ?_, Nat.le_trans (Nat.le_add_right _ _) later⟩
        simp only [run, finished, await_finished, ended]
      · obtain ⟨result, after, ended, later⟩ :=
          ih (.error kind) (asks (.error kind)) { world with clock := stop }
        refine ⟨result, after, ?_, Nat.le_trans begun later⟩
        simp only [run, interrupted, await_interrupted, ended]
  | now next ih => exact ih _ (asks _) world
  | fresh next ih => exact ih _ (asks _ trivial) { world with named := world.named + 1 }
  | log event next ih => exact ih asks { world with events := world.events ++ [event] }

/-- Among timely collaborators every flow comes to an end, and time does not run backwards. -/
theorem run_of_timely (timely : env.Timely) (flow : Flow Call Reply α) (world : World Call σ)
    : ∃ result after,
        run env none flow world = (some result, after) ∧ world.clock ≤ after.clock :=
  (asks_of_forall timely flow).run_of_answers world

/-- As long as no race is lost and replies are as expected, the result is as described. -/
def Yields (expected : (request : Call) → Reply request → Prop) (post : α → Prop)
    : Flow Call Reply α → Prop
  | done result => post result
  | call _ request next => ∀ reply, expected request reply → Yields expected post (next (.ok reply))
  | sleep _ _ next => Yields expected post (next (.ok ()))
  | now next => ∀ reading, Yields expected post (next reading)
  | fresh next => ∀ name, Yields expected post (next name)
  | log _ next => Yields expected post next

/-- What a composed flow yields follows from what its first part yields and what is made of that, by
induction on the first part.
-/
theorem Yields.bind {expected : (request : Call) → Reply request → Prop} {inner : α → Prop}
    {post : β → Prop} {flow : Flow Call Reply α} {f : α → Flow Call Reply β}
    (yields : flow.Yields expected inner)
    (next : ∀ result, inner result → (f result).Yields expected post)
    : (flow.bind f).Yields expected post := by
  induction flow with
  | done result => exact next result yields
  | call ctx request rest ih => exact fun reply given => ih _ (yields reply given)
  | sleep ctx span rest ih => exact ih _ yields
  | now rest ih => exact fun reading => ih reading (yields reading)
  | fresh rest ih => exact fun name => ih name (yields name)
  | log event rest ih => exact ih yields

/-- What a flow yields may be described more weakly. Witness: the flow is followed by nothing. -/
theorem Yields.imp {expected : (request : Call) → Reply request → Prop} {inner post : α → Prop}
    {flow : Flow Call Reply α} (yields : flow.Yields expected inner)
    (implies : ∀ result, inner result → post result)
    : flow.Yields expected post := by
  have bound : (flow.bind done).Yields expected post := yields.bind implies
  rwa [bind_done] at bound

/-- Every flow yields something. -/
theorem yields_trivial (expected : (request : Call) → Reply request → Prop)
    (flow : Flow Call Reply α)
    : flow.Yields expected (fun _ => True) := by
  induction flow with
  | done result => trivial
  | call ctx request rest ih => exact fun reply _ => ih (.ok reply)
  | sleep ctx span rest ih => exact ih (.ok ())
  | now rest ih => exact ih
  | fresh rest ih => exact ih
  | log event rest ih => exact ih

/-- What holds between calls, and what replies are like because of it. -/
structure Expects (env : Environment Call Reply σ) (holds : Instant → σ → Prop)
    (expected : (request : Call) → Reply request → Prop)
    : Prop where
  timely : env.Timely
  later : ∀ {now later state}, holds now state → now ≤ later → holds later state
  call :
    ∀ {request world after reply instant},
      holds world.clock world.state
      → Answered env request world after reply instant
      → expected request reply ∧ holds instant after.state

/-- A run that ends before any interruption has lost no race, and so has the result that the flow
yields. By induction on the flow: a race that is lost is lost at an interruption, and time does not
run backwards from there.
-/
theorem Yields.run {expected : (request : Call) → Reply request → Prop} {post : α → Prop}
    {holds : Instant → σ → Prop} {ctx : Context} {stopped : Interrupt → α → Prop}
    {flow : Flow Call Reply α} (yields : flow.Yields expected post)
    (heeds : flow.Heeds ctx stopped) (expects : Expects env holds expected) (world : World Call σ)
    (given : holds world.clock world.state)
    : ∃ result after,
        Flow.run env none flow world = (some result, after)
        ∧ (ctx.allows after.clock = true → post result) := by
  -- Once interrupted, a context is not free again at any later instant.
  have tooLate {first last : Instant} (stopped : ctx.allows first = false) (le : first ≤ last)
      : ctx.allows last ≠ true := by
    intro allowed
    rw [Context.allows_of_le allowed le] at stopped
    cases stopped
  induction flow generalizing world with
  | done result => exact ⟨result, world, rfl, fun _ => yields⟩
  | call raced request next ih =>
      obtain ⟨rfl, answered, -⟩ := heeds
      obtain ⟨reply, called, ran, -, ⟨value, instant, rfl, answer⟩ | ⟨-, stopped⟩⟩ :=
        runCall_of_answers (expects.timely request) raced world
      · obtain ⟨usual, holds⟩ := expects.call given answer
        obtain ⟨result, after, rest, outcome⟩ :=
          ih _ (yields value usual) (answered value) called (expects.later holds answer.ended)
        refine ⟨result, after, ?_, outcome⟩
        simp only [Flow.run, ran]
        exact rest
      · obtain ⟨result, after, rest, later⟩ := run_of_timely expects.timely (next reply) called
        refine ⟨result, after, ?_, fun allowed => absurd allowed (tooLate stopped later)⟩
        simp only [Flow.run, ran]
        exact rest
  | sleep raced span next ih =>
      obtain ⟨rfl, waited, -⟩ := heeds
      have passed : world.clock ≤ world.clock + span.nanos := Nat.le_add_right _ _
      -- A wait that is finished leaves the rest to the hypothesis; one that is interrupted makes
      -- the run end too late to be of interest.
      rcases raced.race_some passed with finished | ⟨kind, stop, interrupted, -, -, stopped⟩
      · obtain ⟨result, after, rest, outcome⟩ :=
          ih _ yields waited { world with clock := world.clock + span.nanos }
            (expects.later given passed)
        refine ⟨result, after, ?_, outcome⟩
        simp only [Flow.run, finished, await_finished]
        exact rest
      · obtain ⟨result, after, rest, later⟩ :=
          run_of_timely expects.timely (next (.error kind)) { world with clock := stop }
        refine ⟨result, after, ?_, fun allowed => absurd allowed (tooLate stopped later)⟩
        simp only [Flow.run, interrupted, await_interrupted]
        exact rest
  | now next ih => exact ih _ (yields _) (heeds _) world given
  | fresh next ih =>
      exact ih _ (yields _) (heeds _) { world with named := world.named + 1 } given
  | log event next ih =>
      exact ih yields heeds { world with events := world.events ++ [event] } given

end Flow

end ImageVerification
