import ImageVerification.Proofs.Flow.Uninterrupted
import ImageVerification.Proofs.Retry.Attempts
import ImageVerification.Proofs.Service.Runs
import ImageVerification.Proofs.Store.Effects

/-! How a lookup comes to its answer: from a snapshot that it can decode, or else from the store. -/

namespace ImageVerification

open Collaborator

namespace RetryPlan

variable {ε α : Type} [Fault ε] {Call : Type} {Reply : Call → Type}

/-- The tagged outcome of some attempt. -/
def HandsOn (task : Task) (good : Except ε α → Prop) (result : Except (OperationFailure ε) α)
    : Prop :=
  ∃ outcome, good outcome ∧ result = tagged task outcome

/-- To settle an attempt hands on what the attempt gave, good or bad, if the next one would. -/
theorem settle_yields {expected : (request : Call) → Reply request → Prop}
    {good : Except ε α → Prop} (task : Task) (attempt : Nat)
    {again : ε → Flow Call Reply (Except (OperationFailure ε) α)}
    (next : ∀ fault, good (.error fault) → (again fault).Yields expected (HandsOn task good))
    (result : Except Interrupt (Except ε α))
    (given : ∃ outcome, result = .ok outcome ∧ good outcome)
    : (settle task attempt again result).Yields expected (HandsOn task good) := by
  obtain ⟨outcome, rfl, given⟩ := given
  cases outcome with
  | ok value =>
      simp only [settle, succeed]
      split <;> exact ⟨_, given, rfl⟩
  | error fault =>
      simp only [settle]
      split
      · exact next fault given
      · exact ⟨_, given, rfl⟩

/-- Attempts that are not interrupted end in the outcome of one of them. -/
theorem repeatAttempts_yields {expected : (request : Call) → Reply request → Prop}
    {good : Except ε α → Prop} (plan : RetryPlan) (ctx : Context) (task : Task)
    (op : Attempt Call Reply ε α)
    (single : ∀ ctx,
      (op ctx).Yields expected fun result => ∃ outcome, result = .ok outcome ∧ good outcome)
    : (plan.repeatAttempts ctx task op).Yields expected (HandsOn task good) := by
  have failed (attempt : Nat) (fault : ε) (given : good (.error fault))
      : (fail task attempt fault : Flow Call Reply (Except (OperationFailure ε) α)).Yields expected
          (HandsOn task good) :=
    ⟨_, given, rfl⟩
  have fromAttempt (left attempt : Nat)
      : (plan.attemptFrom ctx task op attempt left).Yields expected (HandsOn task good) := by
    induction left generalizing attempt with
    | zero => exact (single ctx).bind (settle_yields task attempt (failed attempt))
    | succ left ih =>
        exact (single ctx).bind (settle_yields task attempt fun _ _ => ih (attempt + 1))
  unfold repeatAttempts
  split
  -- A single attempt is made without the context, and its outcome handed on at once.
  · refine (single .background).bind ?_
    rintro _ ⟨fault | value, rfl, given⟩
    · exact ⟨_, given, rfl⟩
    · exact ⟨_, given, rfl⟩
  · exact fromAttempt (plan.attempts - 1) 1

/-- An attempt that is not to be repeated is the only one. -/
theorem run_repeatAttempts_of_conclusive {σ : Type} {env : Environment Call Reply σ}
    {plan : RetryPlan} {ctx : Context} (op : Attempt Call Reply ε α) (outcome : Except ε α)
    {world after : World Call σ} (task : Task) (several : 1 < plan.attempts)
    (ran : (op ctx).run env none world = (some (.ok outcome), after))
    (conclusive : ¬ FailsTransiently outcome)
    : ∃ events,
        (plan.repeatAttempts ctx task op).run env none world
        = (some (tagged task outcome), { after with events }) := by
  obtain ⟨left, more⟩ : ∃ left, plan.attempts - 1 = left + 1 := ⟨plan.attempts - 2, by omega⟩
  obtain ⟨events, settled⟩ := run_settle_of_final env task 1
    (waitThen plan ctx task 1 (plan.attemptFrom ctx task op 2 left)) outcome after (.inr conclusive)
  refine ⟨events, ?_⟩
  rw [repeatAttempts, if_neg (Nat.not_le_of_lt several), more, attemptFrom, Flow.bind_eq_bind,
    Flow.run_bind, ran]
  exact settled

end RetryPlan

section InMemory

open InMemory

variable {verdict : Except ScorerFault Verdict} {wall : Instant → Timestamp} {name : Nat → String}
  {ctx : Context} {world : World Call InMemory}

/-- A call that is not interrupted is answered at once by the backends in memory. -/
theorem run_perform (free : ctx.interruption world.clock = none) (request : Call)
    : (Flow.perform ctx request).run (environment verdict wall name) none world
      = (some (.ok (answer verdict world.clock world.state request).1),
          {
            world with
            state := (answer verdict world.clock world.state request).2
            calls := world.calls ++ [⟨world.clock, request, true⟩]
          }) := by
  simp only [Flow.perform, Flow.run, runCall_environment free]

/-- Reading the cache tells what is there and changes nothing else. -/
theorem CacheAside.run_get (free : ctx.interruption world.clock = none) (task : Task)
    (key : String)
    : ∃ after,
        (CacheAside.get ctx task key).run (environment verdict wall name) none world
          = (some (match world.state.cache.peek world.clock key with
              | some value => .ok value
              | none => .error (.failed task.operation task.correlationId .miss)), after)
        ∧ after.clock = world.clock
        ∧ after.state.ledger = world.state.ledger := by
  let found := (world.state.cache.get world.clock key).1
  have answered : ¬ RetryPlan.FailsTransiently (Except.ok found : Except CacheFault _) := by
    rintro ⟨fault, same, -⟩
    cases same
  let read : RetryPlan.Attempt Call Reply CacheFault (Option String) :=
    fun ctx => Flow.perform ctx (Call.cacheGet key)
  have asked
      : (read ctx).run (environment verdict wall name) none world
        = (some (.ok (.ok found)), _) :=
    run_perform free (.cacheGet key)
  obtain ⟨events, ran⟩ := RetryPlan.run_repeatAttempts_of_conclusive read (.ok found) task
    (by decide : 1 < RetryPlan.cache.attempts) asked answered
  let calls := world.calls ++ [⟨world.clock, Call.cacheGet key, true⟩]
  let state := (answer verdict world.clock world.state (.cacheGet key)).2
  refine ⟨{ world with state, events, calls }, ?_, rfl, rfl⟩
  have same : found = world.state.cache.peek world.clock key := ExpiringMap.get_fst ..
  rw [CacheAside.get, Flow.bind_eq_bind, Flow.run_bind, ran, ← same]
  clear_value found
  cases found <;> rfl

/-- A lookup in the ledger never fails in passing, so it is not tried again. -/
theorem Ledger.find_conclusive (ledger : Ledger) (requestId userId : String)
    : ¬ RetryPlan.FailsTransiently (ledger.find requestId userId) := by
  rintro ⟨fault, failed, passing⟩
  unfold Ledger.find at failed
  split at failed
  · cases failed
  · cases failed
    cases passing

/-- The store is asked once: that a record is not found is not a passing fault. -/
theorem Repository.run_find (free : ctx.interruption world.clock = none) (requestId userId : String)
    : ∃ events calls,
        (Repository.find ctx requestId userId).run (environment verdict wall name) none world
        = (some (RetryPlan.tagged ⟨"repository.find_by_request_and_user", requestId⟩
            (world.state.ledger.find requestId userId)), { world with events, calls }) := by
  let found := world.state.ledger.find requestId userId
  let search : RetryPlan.Attempt Call Reply StoreFault Record :=
    fun ctx => Flow.perform ctx (Call.storeFind requestId userId)
  have asked
      : (search ctx).run (environment verdict wall name) none world = (some (.ok found), _) :=
    run_perform free (.storeFind requestId userId)
  obtain ⟨events, ran⟩ := RetryPlan.run_repeatAttempts_of_conclusive search found
    ⟨"repository.find_by_request_and_user", requestId⟩ (by decide : 1 < RetryPlan.store.attempts)
    asked (world.state.ledger.find_conclusive requestId userId)
  exact ⟨_, _, ran⟩

/-- The store has the records of an image at hand, and is asked for them once. -/
theorem Repository.run_duplicates (free : ctx.interruption world.clock = none)
    (owner : Option String) (fingerprint : String) (exclude : Option String)
    : ∃ after,
        (Repository.duplicates ctx owner fingerprint exclude).run (environment verdict wall name)
            none world
        = (some (.ok (world.state.ledger.duplicates owner fingerprint exclude)), after) := by
  let found : Except StoreFault (List Record) :=
    .ok (world.state.ledger.duplicates owner fingerprint exclude)
  let search : RetryPlan.Attempt Call Reply StoreFault (List Record) :=
    fun ctx => Flow.perform ctx (Call.storeDuplicates owner fingerprint exclude)
  have asked
      : (search ctx).run (environment verdict wall name) none world = (some (.ok found), _) :=
    run_perform free (.storeDuplicates owner fingerprint exclude)
  have conclusive : ¬ RetryPlan.FailsTransiently found := by
    rintro ⟨fault, failed, -⟩
    simp [found] at failed
  obtain ⟨events, ran⟩ := RetryPlan.run_repeatAttempts_of_conclusive search found
    ⟨"repository.find_duplicates_by_hash", exclude.getD ""⟩
    (by decide : 1 < RetryPlan.store.attempts) asked conclusive
  exact ⟨_, ran⟩

/-- The mark of a verification under way is no snapshot. -/
theorem Snapshot.decode?_marker : Snapshot.decode? CacheAside.marker = none := by
  decide

/-- What a lookup tells: the snapshot under its key, if there is one that can be decoded, and
otherwise what the store finds.
-/
def InMemory.told (backends : InMemory) (now : Instant) (userId requestId : String)
    : Repository.Outcome Record :=
  match (backends.cache.peek now (CacheAside.key requestId)).bind Snapshot.decode? with
  | some snapshot => .ok (snapshot.toRecord userId requestId)
  | none =>
      RetryPlan.tagged ⟨"repository.find_by_request_and_user", requestId⟩
        (backends.ledger.find requestId userId)

/-- A lookup without interruptions gives what the backends tell at its instant: the snapshot if the
cache has one, and the record of the ledger otherwise.
-/
theorem Verification.run_result (free : ctx.interruption world.clock = none)
    (userId requestId : String)
    : ∃ after,
        (Verification.result ctx userId requestId).run (environment verdict wall name) none world
        = (some (world.state.told world.clock userId requestId), after) := by
  obtain ⟨read, ran, sameClock, sameLedger⟩ :=
    @CacheAside.run_get verdict wall name ctx world free ⟨Stage.readCached, requestId⟩
      (CacheAside.key requestId)
  -- Whatever is logged in between, the store is asked at the same instant.
  have fallBack (events : List Event)
      : ∃ after,
          (Repository.find ctx requestId userId).run (environment verdict wall name) none
              { read with events }
            = (some (RetryPlan.tagged ⟨"repository.find_by_request_and_user", requestId⟩
                (world.state.ledger.find requestId userId)), after) := by
    rw [← sameLedger]
    rw [← sameClock] at free
    obtain ⟨logged, calls, ran⟩ :=
      @Repository.run_find verdict wall name ctx { read with events } free requestId userId
    exact ⟨_, ran⟩
  unfold Verification.result told
  rw [Flow.bind_eq_bind, Flow.run_bind, ran]
  cases world.state.cache.peek world.clock (CacheAside.key requestId) with
  | none => exact fallBack read.events
  | some cached =>
      by_cases marked : cached = CacheAside.marker
      · subst marked
        simp only [if_pos, Option.bind_some, Snapshot.decode?_marker]
        exact fallBack _
      · cases decoded : Snapshot.decode? cached with
        | none =>
            simp only [if_neg marked, decoded, Option.bind_some]
            exact fallBack _
        | some snapshot =>
            simp only [if_neg marked, decoded, Option.bind_some]
            exact ⟨read, rfl⟩

end InMemory

end ImageVerification
