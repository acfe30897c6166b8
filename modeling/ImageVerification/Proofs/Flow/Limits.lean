import ImageVerification.Proofs.Flow.Exchanges
import ImageVerification.Proofs.Flow.Uninterrupted

/-! Runs that are over in time: before a limit, which then does not matter, or before an
interruption, which they then have not met.
-/

namespace ImageVerification.Flow

variable {Call : Type} {Reply : Call → Type} {σ α ω : Type}

/-- No race is over before it begins. -/
theorem le_await {ctx : Context} {start : Instant} {due : Option Instant}
    (early : ∀ instant ∈ due, start ≤ instant)
    : start ≤ (await none start (ctx.race start due)).2 := by
  cases due with
  | some instant =>
      rcases ctx.race_some (early instant rfl) with won | ⟨kind, stop, lost, after, -, -⟩
      · rw [won, await_finished]
        exact early instant rfl
      · rw [lost, await_interrupted]
        exact after
  | none =>
      unfold Context.race
      cases free : ctx.interruption start with
      | some kind => exact Nat.le_refl start
      | none =>
          cases isFirst : ctx.interruptAt with
          | none => exact Nat.le_refl start
          | some first =>
              -- A context that is free is interrupted later.
              have allowed := (ctx.interruption_eq_none_iff start).mp free
              have later : start < first := by simpa [Context.allows, isFirst] using allowed
              exact Nat.le_of_lt later

/-- Time does not run backwards while something that takes a span is awaited. -/
theorem le_await_map (ctx : Context) (start : Instant) (span : Option Nat)
    : start ≤ (await none start (ctx.race start (span.map (start + ·)))).2 := by
  refine le_await fun instant member => ?_
  obtain ⟨nanos, -, rfl⟩ := Option.map_eq_some_iff.mp member
  exact Nat.le_add_right start nanos

/-- What becomes under a limit of something that has its own result and its own time without it: the
same, if that is before the limit, and otherwise nothing, at the limit.
-/
inductive Limited (limit : Instant) (clock : ω → Instant) : Option α × ω → Option α × ω → Prop where
  | inTime {result : α} {after : ω} (early : clock after < limit)
      : Limited limit clock (some result, after) (some result, after)
  | cut {free : Option α × ω} {stopped : ω}
      (late : ∀ result after, free = (some result, after) → limit ≤ clock after)
      (atLimit : clock stopped = limit)
      : Limited limit clock free (none, stopped)

/-- What is awaited up to a limit is awaited as without one, or cut off at the limit. -/
theorem await_limited (limit clock : Instant) (race : Context.Race)
    : Limited limit id (await none clock race) (await (some limit) clock race) := by
  have raced (ended : Except Interrupt Unit) (instant : Instant)
      : Limited limit id (some ended, instant)
          (if within (some limit) instant then (some ended, instant) else (none, limit)) := by
    split
    · next early => exact .inTime (of_decide_eq_true early)
    · next beyond =>
        refine .cut ?_ rfl
        rintro _ _ ⟨⟩
        exact Nat.le_of_not_lt fun early => beyond (decide_eq_true early)
  cases race with
  | finished due => exact raced _ due
  | interrupted kind stop => exact raced _ stop
  | pending => exact .cut nofun rfl

variable {env : Environment Call Reply σ} {ctx : Context}
  {world after : World Call σ}

/-- Time does not run backwards during a call: each of its two waits ends no earlier than it begins.
-/
theorem le_runCall (env : Environment Call Reply σ) (ctx : Context) (request : Call)
    (world : World Call σ)
    : world.clock ≤ (runCall env none ctx request world).2.clock := by
  unfold runCall
  cases free : ctx.interruption world.clock with
  | some kind => exact Nat.le_refl _
  | none =>
      rcases accepted : env.accept request world.clock world.state with ⟨conduct, state⟩
      dsimp only
      have early := le_await_map ctx world.clock conduct.before
      rcases effected : await none world.clock
        (ctx.race world.clock (conduct.before.map (world.clock + ·))) with ⟨ended, effectAt⟩
      rw [effected] at early
      match ended with
      | none => exact early
      | some (.error kind) => exact early
      | some (.ok ()) =>
          have later := le_await_map ctx effectAt conduct.after
          dsimp only
          rcases replied : await none effectAt
            (ctx.race effectAt (conduct.after.map (effectAt + ·))) with ⟨ended, replyAt⟩
          rw [replied] at later
          match ended with
          | none | some (.error kind) | some (.ok ()) => exact Nat.le_trans early later

/-- Time does not run backwards in a run, whether it has a result or not. -/
theorem le_run (env : Environment Call Reply σ) (flow : Flow Call Reply α)
    (world : World Call σ)
    : world.clock ≤ (run env none flow world).2.clock := by
  induction flow generalizing world with
  | done value => exact Nat.le_refl _
  | call ctx request next ih =>
      have early := le_runCall env ctx request world
      simp only [run]
      rcases called : runCall env none ctx request world with ⟨_ | reply, middle⟩
      · rwa [called] at early
      · rw [called] at early
        exact Nat.le_trans early (ih reply middle)
  | sleep ctx span next ih =>
      have early := le_await_map ctx world.clock (some span.nanos)
      rw [Option.map_some] at early
      simp only [run]
      rcases waited : await none world.clock
        (ctx.race world.clock (some (world.clock + span.nanos))) with ⟨_ | reply, clock⟩
      · rwa [waited] at early
      · rw [waited] at early
        exact Nat.le_trans early (ih reply { world with clock })
  | now next ih => exact ih _ world
  | fresh next ih => exact ih _ { world with named := world.named + 1 }
  | log event next ih => exact ih { world with events := world.events ++ [event] }

/-- Time does not run backwards during a run. -/
theorem le_of_run {flow : Flow Call Reply α} {result : Option α}
    (ran : run env none flow world = (result, after))
    : world.clock ≤ after.clock := by
  have early := le_run env flow world
  rwa [ran] at early

/-- A call that is made before the limit goes as it would without one, or is cut off at the limit.
Of its two waits, either may be the one that is cut off.
-/
theorem runCall_limited (env : Environment Call Reply σ) (ctx : Context) (request : Call)
    {limit : Instant} (early : world.clock < limit)
    : Limited limit World.clock (runCall env none ctx request world)
        (runCall env (some limit) ctx request world) := by
  unfold runCall
  cases free : ctx.interruption world.clock with
  | some kind => exact .inTime early
  | none =>
      rcases accepted : env.accept request world.clock world.state with ⟨conduct, state⟩
      dsimp only
      -- The first wait: up to the effect of the call.
      have effect := await_limited limit world.clock
        (ctx.race world.clock (conduct.before.map (world.clock + ·)))
      generalize await (some limit) world.clock _ = limited at effect ⊢
      generalize await none world.clock _ = unlimited at effect ⊢
      cases effect with
      | @inTime result effectAt early =>
          match result with
          | .error kind => exact .inTime early
          | .ok () =>
              dsimp only
              -- The second wait: from the effect to the reply.
              have reply := await_limited limit effectAt
                (ctx.race effectAt (conduct.after.map (effectAt + ·)))
              generalize await (some limit) effectAt _ = limited at reply ⊢
              generalize await none effectAt _ = unlimited at reply ⊢
              cases reply with
              | @inTime result replyAt early =>
                  match result with
                  | .error kind => exact .inTime early
                  | .ok () => exact .inTime early
              | @cut unlimited stopped late atLimit =>
                  refine .cut (fun result after replied => ?_) atLimit
                  rcases unlimited with ⟨_ | _ | _, replyAt⟩
                  · cases replied
                  · cases replied
                    exact late _ _ rfl
                  · cases replied
                    exact late _ _ rfl
      | @cut unlimited stopped late atLimit =>
          refine .cut (fun result after replied => ?_) atLimit
          rcases unlimited with ⟨_ | _ | _, effectAt⟩
          · cases replied
          · cases replied
            exact late _ _ rfl
          · -- The reply is no earlier than the effect, which is too late.
            have later := le_await_map ctx effectAt conduct.after
            dsimp only at replied
            rcases answered : await none effectAt
              (ctx.race effectAt (conduct.after.map (effectAt + ·))) with ⟨_ | _ | _, replyAt⟩
            · rw [answered] at replied
              cases replied
            · rw [answered] at replied later
              cases replied
              exact Nat.le_trans (late _ _ rfl) later
            · rw [answered] at replied later
              cases replied
              exact Nat.le_trans (late _ _ rfl) later

/-- A run under a limit is the same as without it, if it is over before the limit, and otherwise it
is cut short there. By induction on the flow: what comes after something that is late is late too.
-/
theorem run_limited (env : Environment Call Reply σ) (flow : Flow Call Reply α)
    (world : World Call σ) {limit : Instant} (early : world.clock < limit)
    : Limited limit World.clock (run env none flow world) (run env (some limit) flow world) := by
  induction flow generalizing world with
  | done value => exact .inTime early
  | call ctx request next ih =>
      have called := runCall_limited env ctx request early
      simp only [run]
      generalize runCall env (some limit) ctx request world = limited at called ⊢
      generalize runCall env none ctx request world = unlimited at called ⊢
      cases called with
      -- What the call left is early again, so the rest is limited as well.
      | inTime early => exact ih _ _ early
      | @cut unlimited stopped late atLimit =>
          refine .cut (fun result after ran => ?_) atLimit
          rcases unlimited with ⟨_ | reply, middle⟩
          · cases ran
          · exact Nat.le_trans (late _ _ rfl) (le_of_run ran)
  | sleep ctx span next ih =>
      have waited := await_limited limit world.clock
        (ctx.race world.clock (some (world.clock + span.nanos)))
      simp only [run]
      generalize await (some limit) world.clock _ = limited at waited ⊢
      generalize await none world.clock _ = unlimited at waited ⊢
      cases waited with
      | @inTime reply clock early => exact ih reply { world with clock } early
      | @cut unlimited stopped late atLimit =>
          refine .cut (fun result after ran => ?_) atLimit
          rcases unlimited with ⟨_ | reply, clock⟩
          · cases ran
          · exact Nat.le_trans (late _ _ rfl) (le_of_run ran)
  | now next ih => exact ih _ world early
  | fresh next ih => exact ih _ { world with named := world.named + 1 } early
  | log event next ih => exact ih { world with events := world.events ++ [event] } early

/-- A run that is over before a limit is the same under the limit. -/
theorem run_within {flow : Flow Call Reply α} {result : α}
    (ran : run env none flow world = (some result, after))
    : world.clock ≤ after.clock
      ∧ ∀ limit,
          after.clock < limit → run env (some limit) flow world = (some result, after) := by
  refine ⟨le_of_run ran, fun limit inTime => ?_⟩
  have limited := run_limited env flow world (Nat.lt_of_le_of_lt (le_of_run ran) inTime)
  rw [ran] at limited
  generalize run env (some limit) flow world = underLimit at limited ⊢
  cases limited with
  | inTime early => rfl
  | cut late atLimit => exact absurd inTime (Nat.not_lt_of_le (late _ _ rfl))

/-- A call that is cut short is so when its context is interrupted. -/
theorem interruption_of_runCall {request : Call} {kind : Interrupt}
    (called : runCall env none ctx request world = (some (.error kind), after))
    : ctx.interruption after.clock = some kind := by
  cases free : ctx.interruption world.clock with
  | some already =>
      rw [runCall_of_interruption env none request free] at called
      cases called
      exact free
  | none =>
      have begun := begun_runCall env none request free
      rw [called] at begun
      exact begun.interrupted kind rfl

/-- A run that is over while its context is free has lost no race. By induction on the flow: a race
is lost when the context is interrupted, and the context is not free again later.
-/
theorem Yields.run_of_allows {post : α → Prop} {stopped : Interrupt → α → Prop}
    {flow : Flow Call Reply α} {result : α} (yields : flow.Yields (fun _ _ => True) post)
    (heeds : flow.Heeds ctx stopped) (ran : Flow.run env none flow world = (some result, after))
    (allowed : ctx.allows after.clock = true)
    : post result := by
  -- Up to the end of the run the context tells of no interruption.
  have free {instant : Instant} {kind : Interrupt} (early : instant ≤ after.clock)
      : ctx.interruption instant ≠ some kind := by
    rw [Context.interruption_eq_none allowed early]
    exact nofun
  induction flow generalizing world with
  | done value =>
      cases ran
      exact yields
  | call raced request next ih =>
      obtain ⟨rfl, answered, -⟩ := heeds
      simp only [Flow.run] at ran
      rcases called : runCall env none raced request world with ⟨_ | reply, middle⟩
      · rw [called] at ran
        cases ran
      · rw [called] at ran
        cases reply with
        | ok value => exact ih _ (yields value trivial) (answered value) ran
        -- A call that was told of an interruption would have been told too early.
        | error kind => exact absurd (interruption_of_runCall called) (free (le_of_run ran))
  | sleep raced span next ih =>
      obtain ⟨rfl, waited, -⟩ := heeds
      simp only [Flow.run] at ran
      rcases await_cases none world.clock (raced.race world.clock (some (world.clock + span.nanos)))
        with ⟨due, -, -, ended⟩ | ⟨kind, stop, lost, ended⟩ | ⟨clock, ended⟩
      · rw [ended] at ran
        exact ih _ yields waited ran
      · rw [ended] at ran
        exact absurd (Context.interruption_of_race lost) (free (le_of_run ran))
      · rw [ended] at ran
        cases ran
  | now next ih => exact ih _ (yields _) (heeds _) ran
  | fresh next ih => exact ih _ (yields _) (heeds _) ran
  | log event next ih => exact ih yields heeds ran

variable {trace : List (Exchange Call Reply σ)}

/-- The same for a run that is given by its exchanges. -/
theorem Goes.le {flow : Flow Call Reply α} {result : Option α}
    (goes : Goes env none flow world trace result after)
    : world.clock ≤ after.clock :=
  le_of_run goes.ran

/-- A call that is answered some time is answered, if its context is free to the end. -/
theorem Goes.perform_answered {request : Call} {reply : Option (Except Interrupt (Reply request))}
    (goes : Goes env none (perform ctx request) world trace reply after)
    (answers : env.Answers request) (allowed : ctx.allows after.clock = true)
    : ∃ value, reply = some (.ok value) ∧ trace = [⟨request, reply, world, after⟩] := by
  have free := Context.interruption_eq_none allowed (Nat.le_refl _)
  rcases goes.perform_cases with ⟨kind, -, -, stopped⟩ | ⟨only, begun⟩
  · cases free.symm.trans stopped
  · obtain ⟨returned, returnedTo, called, -, -⟩ := runCall_of_answers answers ctx world
    have ran := goes.ran
    simp only [perform, run, called] at ran
    cases ran
    cases returned with
    | error kind => cases free.symm.trans (begun.interrupted kind rfl)
    | ok value => exact ⟨value, rfl, only⟩

/-- A wait is waited out, if its context is free to the end. -/
theorem Goes.pause_elapsed {span : Duration} {reply : Option (Except Interrupt Unit)}
    (goes : Goes env none (pause ctx span) world trace reply after)
    (allowed : ctx.allows after.clock = true)
    : trace = [] ∧ reply = some (.ok ()) := by
  have ran := goes.ran
  simp only [pause, run] at ran
  rcases ctx.race_some (Nat.le_add_right world.clock span.nanos)
    with finished | ⟨kind, stop, lost, -, -, stopped⟩
  · rw [finished, await_finished] at ran
    cases ran
    exact ⟨goes.pause_cases.1, rfl⟩
  · rw [lost, await_interrupted] at ran
    cases ran
    exact absurd allowed (by simp [stopped])

end ImageVerification.Flow
