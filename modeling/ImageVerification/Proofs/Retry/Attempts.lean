import ImageVerification.Fault.Connection
import ImageVerification.Proofs.Flow.Running
import ImageVerification.Proofs.Retry.Waits
import ImageVerification.Simulation.Replay
import Mathlib.Logic.ExistsUnique

/-! A whole run of attempts, for every sequence of outcomes: how many are made, when each begins,
and what comes of the run.
-/

namespace ImageVerification.RetryPlan

open Simulation

variable {ε α : Type}

/-- How attempts go, numbered from one: how long each takes and how it ends. -/
abbrev Script (ε α : Type) := Nat → ReplayedAttempt ε α

/-- Attempts that go by a script; the state counts those made so far. -/
def scripted (script : Script ε α) : Environment Unit (fun _ => Except ε α) Nat :=
  {
    accept := fun _ _ made =>
      (⟨some (script (made + 1)).delay, fun _ state => ((script (made + 1)).outcome, state),
          some 0⟩,
        made + 1)
    wall := fun _ => .epoch
    name := fun _ => ""
  }

def FailsTransiently [Fault ε] (outcome : Except ε α) : Prop :=
  ∃ fault, outcome = .error fault ∧ isTransient fault = true

/-- The number of attempts a plan allows; the first one is always made. -/
def budget (plan : RetryPlan) : Nat := max 1 plan.attempts

/-- Attempt number `last` ends the run: all before it fail transiently, and it does not or is the
last one that the plan allows.
-/
structure Ends [Fault ε] (plan : RetryPlan) (script : Script ε α) (last : Nat) : Prop where
  positive : 1 ≤ last
  allowed : last ≤ plan.budget
  repeated : ∀ number, 1 ≤ number → number < last → FailsTransiently (script number).outcome
  final : last = plan.budget ∨ ¬ FailsTransiently (script last).outcome

/-- When the next attempt begins once `made` have been made and waited after. -/
def beginsAfter (plan : RetryPlan) (script : Script ε α) (start : Instant) : Nat → Instant
  | 0 => start
  | made + 1 =>
      plan.beginsAfter script start made + (script (made + 1)).delay + (plan.waitBefore made).nanos

/-- When attempt number `last` ends. -/
def endsAt (plan : RetryPlan) (script : Script ε α) (start : Instant) (last : Nat) : Instant :=
  plan.beginsAfter script start (last - 1) + (script last).delay

/-- What a run hands on of an attempt's outcome. -/
def tagged (task : Task) (outcome : Except ε α) : Except (OperationFailure ε) α :=
  outcome.mapError (OperationFailure.failed task.operation task.correlationId)

/-- Later attempts begin later; by induction on how many more there are. -/
theorem beginsAfter_mono (plan : RetryPlan) (script : Script ε α) (start : Instant)
    {made later : Nat} (le : made ≤ later)
    : plan.beginsAfter script start made ≤ plan.beginsAfter script start later := by
  induction le with
  | refl => exact Nat.le_refl _
  | step _ ih => exact Nat.le_trans ih (Nat.le_trans (Nat.le_add_right _ _) (Nat.le_add_right _ _))

/-- An attempt and the wait after it are over before any later attempt ends. -/
theorem beginsAfter_le_endsAt (plan : RetryPlan) (script : Script ε α) (start : Instant)
    {made last : Nat} (lt : made < last)
    : plan.beginsAfter script start made ≤ plan.endsAt script start last :=
  Nat.le_trans (plan.beginsAfter_mono script start (by omega)) (Nat.le_add_right _ _)

/-- Among the attempts from `number` on there is exactly one at which a run ends, by induction on
the attempts that are left. -/
theorem exists_ends_from [Fault ε] (plan : RetryPlan) (script : Script ε α) (left number : Nat)
    (positive : 1 ≤ number) (rest : number + left = plan.budget)
    (repeated : ∀ before, 1 ≤ before → before < number → FailsTransiently (script before).outcome)
    : ∃ last, Ends plan script last := by
  induction left generalizing number with
  | zero => exact ⟨number, positive, by omega, repeated, .inl (by omega)⟩
  | succ left ih =>
      by_cases again : FailsTransiently (script number).outcome
      · refine ih (number + 1) (by omega) (by omega) ?_
        intro before lower upper
        by_cases same : before = number
        · exact same ▸ again
        · exact repeated before lower (by omega)
      · exact ⟨number, positive, by omega, repeated, .inr again⟩

/-- No two attempts are both the last: up to the last one each is followed by another. -/
theorem Ends.le_of_ends [Fault ε] {plan : RetryPlan} {script : Script ε α} {last other : Nat}
    (ends : Ends plan script last) (another : Ends plan script other)
    : last ≤ other := by
  apply Nat.le_of_not_lt
  intro lt
  have again := ends.repeated other another.positive lt
  rcases another.final with exhausted | conclusive
  · have bound := ends.allowed
    omega
  · exact conclusive again

/-- Every sequence of outcomes ends a run at exactly one attempt. -/
theorem existsUnique_ends [Fault ε] (plan : RetryPlan) (script : Script ε α)
    : ∃! last, Ends plan script last := by
  have atLeastOne : 1 ≤ plan.budget := Nat.le_max_left _ _
  obtain ⟨last, ends⟩ := exists_ends_from plan script (plan.budget - 1) 1 (Nat.le_refl 1)
    (by omega) (by omega)
  refine ⟨last, ends, ?_⟩
  intro other another
  exact Nat.le_antisymm (another.le_of_ends ends) (ends.le_of_ends another)

/-- The attempts made from number `made + 1` to number `last`, each begun at its time. -/
def attemptCalls (plan : RetryPlan) (script : Script ε α) (start : Instant) (made last : Nat)
    : List (CallRecord Unit) :=
  (List.range' made (last - made)).map fun made =>
    ⟨plan.beginsAfter script start made, (), true⟩

/-- The calls up to the last attempt are the next attempt and the calls after it. -/
theorem attemptCalls_cons (plan : RetryPlan) (script : Script ε α) (start : Instant)
    {made last : Nat} (lt : made < last)
    : plan.attemptCalls script start made last
      = ⟨plan.beginsAfter script start made, (), true⟩
        :: plan.attemptCalls script start (made + 1) last := by
  obtain ⟨rest, rfl⟩ : ∃ rest, last = made + 1 + rest := ⟨last - (made + 1), by omega⟩
  have first : made + 1 + rest - made = rest + 1 := by omega
  have later : made + 1 + rest - (made + 1) = rest := by omega
  simp only [attemptCalls, first, later, List.range'_succ, List.map_cons]

/-- The world in which attempt number `made + 1` is about to begin. -/
structure Before (plan : RetryPlan) (script : Script ε α) (start : Instant) (made : Nat)
    (world : World Unit Nat)
    : Prop where
  clock : world.clock = plan.beginsAfter script start made
  state : world.state = made

/-- An attempt that is over before any interruption takes its time and has its outcome. -/
theorem run_attempt {plan : RetryPlan} {script : Script ε α} {start : Instant} {made : Nat}
    {world : World Unit Nat} {ctx : Context} (before : Before plan script start made world)
    (allowed : ctx.allows (plan.endsAt script start (made + 1)) = true)
    : Flow.run (scripted script) none (Flow.perform ctx ()) world
      = (some (.ok (script (made + 1)).outcome),
          {
            world with
            clock := plan.endsAt script start (made + 1)
            state := made + 1
            calls := world.calls ++ [⟨plan.beginsAfter script start made, (), true⟩]
          }) := by
  have due : world.clock + (script (made + 1)).delay + 0 = plan.endsAt script start (made + 1) := by
    rw [before.clock]
    rfl
  have accepted
      : (scripted script).accept () world.clock world.state
        = (⟨some (script (made + 1)).delay, fun _ state => ((script (made + 1)).outcome, state),
            some 0⟩, made + 1) := by
    rw [before.state]
    rfl
  have answered := Flow.runCall_of_allows accepted rfl rfl (due ▸ allowed)
  simp only [Flow.perform, Flow.run, answered, before.clock]
  rfl

/-- The operation that a script describes. -/
def scriptedOp : Attempt Unit (fun _ => Except ε α) ε α := fun ctx => Flow.perform ctx ()

/-- A run ends as its last attempt does: with the tagged outcome, at the time that attempt ends, and
with exactly the calls up to it made, each at its time. -/
def RunsTo (plan : RetryPlan) (script : Script ε α) (task : Task) (start : Instant)
    (made last : Nat)
    (flow : Flow Unit (fun _ => Except ε α) (Except (OperationFailure ε) α))
    (world : World Unit Nat)
    : Prop :=
  ∃ events,
    Flow.run (scripted script) none flow world
    = (some (tagged task (script last).outcome),
        {
          world with
          clock := plan.endsAt script start last
          state := last
          events
          calls := world.calls ++ plan.attemptCalls script start made last
        })

/-- An outcome that is not repeated is handed on, with its events. -/
theorem run_settle_of_final [Fault ε] {Call σ : Type} {Reply : Call → Type}
    (env : Environment Call Reply σ) (task : Task) (attempt : Nat)
    (again : ε → Flow Call Reply (Except (OperationFailure ε) α)) (outcome : Except ε α)
    (world : World Call σ)
    (final : again = fail task attempt ∨ ¬ FailsTransiently outcome)
    : ∃ events,
        Flow.run env none (settle task attempt again (.ok outcome)) world
        = (some (tagged task outcome), { world with events }) := by
  cases outcome with
  | ok value =>
      -- A success is noted only after a retry.
      by_cases retried : attempt > 1
      · exact ⟨_, by simp only [settle, succeed, if_pos retried]; rfl⟩
      · exact ⟨world.events, by simp only [settle, succeed, if_neg retried]; rfl⟩
  | error fault =>
      refine ⟨world.events ++ [task.failedEvent attempt fault], ?_⟩
      rcases final with last | conclusive
      · simp only [settle, last, ite_self]
        rfl
      · have lasting : isTransient fault ≠ true := fun again => conclusive ⟨fault, rfl, again⟩
        simp only [settle, if_neg lasting]
        rfl

/-- An attempt that does not fail transiently is the one that ends the run. -/
theorem Ends.eq_of_conclusive [Fault ε] {plan : RetryPlan} {script : Script ε α}
    {last number : Nat} (ends : Ends plan script last) (positive : 1 ≤ number)
    (le : number ≤ last) (conclusive : ¬ FailsTransiently (script number).outcome)
    : last = number := by
  rcases Nat.lt_or_eq_of_le le with lt | same
  · exact absurd (ends.repeated number positive lt) conclusive
  · exact same.symm

/-- A transient failure is not the last attempt while the plan allows another one. -/
theorem Ends.lt_of_transient [Fault ε] {plan : RetryPlan} {script : Script ε α}
    {last number : Nat} (ends : Ends plan script last) (le : number ≤ last)
    (more : number < plan.budget) (again : FailsTransiently (script number).outcome)
    : number < last := by
  rcases Nat.lt_or_eq_of_le le with lt | same
  · exact lt
  · subst same
    rcases ends.final with exhausted | conclusive
    · omega
    · exact absurd again conclusive

/-- The last attempt of a run. -/
theorem runsTo_last [Fault ε] {plan : RetryPlan} {script : Script ε α} {start : Instant}
    {made : Nat} {ctx : Context} {world : World Unit Nat} (task : Task)
    (again : ε → Flow Unit (fun _ => Except ε α) (Except (OperationFailure ε) α))
    (before : Before plan script start made world)
    (allowed : ctx.allows (plan.endsAt script start (made + 1)) = true)
    (final : again = fail task (made + 1) ∨ ¬ FailsTransiently (script (made + 1)).outcome)
    : RunsTo plan script task start made (made + 1)
        ((scriptedOp ctx).bind (settle task (made + 1) again)) world := by
  obtain ⟨events, ran⟩ := run_settle_of_final (scripted script) task (made + 1) again
    (script (made + 1)).outcome
    {
      world with
      clock := plan.endsAt script start (made + 1)
      state := made + 1
      calls := world.calls ++ [⟨plan.beginsAfter script start made, (), true⟩]
    } final
  refine ⟨events, ?_⟩
  rw [Flow.run_bind, scriptedOp, run_attempt before allowed,
    attemptCalls_cons plan script start (Nat.lt_succ_self made)]
  simpa only [attemptCalls, Nat.sub_self, List.range'_zero, List.map_nil] using ran

/-- An attempt that fails transiently, and the wait after it. -/
theorem runsTo_again [Fault ε] {plan : RetryPlan} {script : Script ε α} {start : Instant}
    {made last : Nat} {ctx : Context} {world : World Unit Nat} (task : Task)
    (next : Flow Unit (fun _ => Except ε α) (Except (OperationFailure ε) α))
    (before : Before plan script start made world) (lt : made + 1 < last)
    (allowed : ctx.allows (plan.endsAt script start last) = true)
    (transient : FailsTransiently (script (made + 1)).outcome)
    (later : ∀ world, Before plan script start (made + 1) world
      → RunsTo plan script task start (made + 1) last next world)
    : RunsTo plan script task start made last
        ((scriptedOp ctx).bind
          (settle task (made + 1) (waitThen plan ctx task (made + 1) next))) world := by
  obtain ⟨fault, failed, passing⟩ := transient
  have waited := plan.beginsAfter_le_endsAt script start lt
  have attempt := run_attempt before
    (Context.allows_of_le allowed (Nat.le_trans (Nat.le_add_right _ _) waited))
  let event := task.transientEvent (made + 1) (plan.waitBefore made) fault
  -- The world after the wait, where the next attempt begins.
  let paused : World Unit Nat :=
    {
      world with
      clock := plan.beginsAfter script start (made + 1)
      state := made + 1
      events := world.events ++ [event]
      calls := world.calls ++ [⟨plan.beginsAfter script start made, (), true⟩]
    }
  obtain ⟨events, ran⟩ := later paused ⟨rfl, rfl⟩
  refine ⟨events, ?_⟩
  rw [Flow.run_bind, scriptedOp, attempt]
  simp only [failed, settle, if_pos passing, waitThen, Nat.add_sub_cancel, Flow.note,
    Flow.bind_eq_bind, Flow.bind, Flow.run, Flow.run_bind]
  rw [Flow.run_pause_of_allows, attemptCalls_cons plan script start (Nat.lt_of_succ_lt lt)]
  · simp only [paused, List.append_assoc, List.singleton_append] at ran
    exact ran
  · exact Context.allows_of_le allowed waited

/-- From any attempt on, a run that is not interrupted goes on to the attempt that ends it. By
induction on the attempts left: each one either ends the run or fails transiently before the last,
and then the wait after it leads to the next.
-/
theorem attemptFrom_runsTo [Fault ε] {plan : RetryPlan} {script : Script ε α} {start : Instant}
    {last : Nat} {ctx : Context} (task : Task) (ends : Ends plan script last)
    (allowed : ctx.allows (plan.endsAt script start last) = true) (left made : Nat)
    (rest : made + 1 + left = plan.budget) (lt : made < last) (world : World Unit Nat)
    (before : Before plan script start made world)
    : RunsTo plan script task start made last
        (plan.attemptFrom ctx task scriptedOp (made + 1) left) world := by
  induction left generalizing made world with
  | zero =>
      have bound := ends.allowed
      obtain rfl : last = made + 1 := by omega
      exact runsTo_last task _ before allowed (.inl rfl)
  | succ left ih =>
      by_cases again : FailsTransiently (script (made + 1)).outcome
      · have more := ends.lt_of_transient (Nat.succ_le_of_lt lt) (by omega) again
        exact runsTo_again task _ before more allowed again fun world before =>
          ih (made + 1) (by omega) more world before
      · obtain rfl := ends.eq_of_conclusive (by omega) (Nat.succ_le_of_lt lt) again
        exact runsTo_last task _ before allowed (.inr again)

/-- A plan with no more than one attempt asks no context, and yet ends as the loop would. -/
theorem attemptOnce_runsTo {plan : RetryPlan} {script : Script ε α} (task : Task)
    (world : World Unit Nat) (fresh : world.state = 0)
    : RunsTo plan script task world.clock 0 1 (attemptOnce task scriptedOp) world := by
  have attempt := run_attempt (⟨rfl, fresh⟩ : Before plan script world.clock 0 world)
    (rfl : Context.background.allows _ = true)
  refine ⟨world.events, ?_⟩
  rw [attemptOnce, Flow.bind_eq_bind, Flow.run_bind, scriptedOp, attempt]
  cases (script 1).outcome <;> rfl

/-- Unlimited attempts that end somewhere run up to their end: their calls, their waits and the
result of the last one. A budget of one has a path of its own.
-/
theorem repeatAttempts_runsTo [Fault ε] {plan : RetryPlan} {script : Script ε α} {last : Nat}
    {ctx : Context} (task : Task) (ends : Ends plan script last) (world : World Unit Nat)
    (fresh : world.state = 0)
    (allowed : ctx.allows (plan.endsAt script world.clock last) = true)
    : RunsTo plan script task world.clock 0 last (plan.repeatAttempts ctx task scriptedOp)
        world := by
  have bound := ends.allowed
  have positive := ends.positive
  unfold repeatAttempts
  split
  · next single =>
      -- The budget is one, so the first attempt is the last.
      obtain rfl : last = 1 := by simp only [budget] at bound; omega
      exact attemptOnce_runsTo task world fresh
  · next several =>
      have rest : 0 + 1 + (plan.attempts - 1) = plan.budget := by simp only [budget]; omega
      exact attemptFrom_runsTo task ends allowed _ 0 rest positive world ⟨rfl, fresh⟩

/-- Attempts under a context that does not interrupt them. Whatever their outcomes are, exactly one
attempt ends the run. The attempts up to it are made and no others, each beginning once the one
before has ended and its wait is over. The run ends with the last attempt and hands on its outcome,
a fault tagged with the task; its waits never get shorter and never exceed the longest one.
-/
theorem repeatAttempts_scripted [Fault ε] (plan : RetryPlan) (script : Script ε α) (task : Task)
    : (∃! last, Ends plan script last)
      ∧ ∀ last,
          Ends plan script last
          → (plan.waits last).Pairwise (fun wait later => wait.nanos ≤ later.nanos)
            ∧ (∀ wait ∈ plan.waits last, wait.nanos ≤ plan.longestWait.nanos)
            ∧ ∀ (ctx : Context) (world : World Unit Nat),
                world.state = 0
                → ctx.allows (plan.endsAt script world.clock last) = true
                → RunsTo plan script task world.clock 0 last
                    (plan.repeatAttempts ctx task scriptedOp) world := by
  refine ⟨plan.existsUnique_ends script, ?_⟩
  intro last ends
  refine ⟨plan.waits_pairwise last, ?_, ?_⟩
  · intro wait member
    obtain ⟨retry, -, rfl⟩ := List.mem_map.mp member
    exact plan.waitBefore_le_longestWait retry
  · intro ctx world fresh allowed
    exact repeatAttempts_runsTo task ends world fresh allowed

/-- Two time-outs and then a success. -/
def recovering : Script ConnectionFault String
  | 1 => ⟨5, .error .timedOut⟩
  | 2 => ⟨6, .error .timedOut⟩
  | _ => ⟨7, .ok "stored"⟩

/-- The third attempt succeeds one nanosecond before the deadline. -/
theorem store_recovering
    : Ends store recovering 3
      ∧ (⟨none, some 300000019⟩ : Context).allows (store.endsAt recovering 0 3) = true
      ∧ RunsTo store recovering ⟨"repository.save_log", "r"⟩ 0 0 3
          (store.repeatAttempts ⟨none, some 300000019⟩ ⟨"repository.save_log", "r"⟩ scriptedOp)
          (.start 0) := by
  have ends : Ends store recovering 3 := by
    refine ⟨by decide, by decide, ?_, .inl rfl⟩
    intro number positive before
    obtain rfl | rfl : number = 1 ∨ number = 2 := by omega
    · exact ⟨.timedOut, rfl, rfl⟩
    · exact ⟨.timedOut, rfl, rfl⟩
  have allowed
      : (⟨none, some 300000019⟩ : Context).allows (store.endsAt recovering 0 3) = true := by
    decide
  exact ⟨ends, allowed,
    ((repeatAttempts_scripted store recovering ⟨"repository.save_log", "r"⟩).2 3 ends).2.2
      ⟨none, some 300000019⟩ (.start 0) rfl allowed⟩

end ImageVerification.RetryPlan
