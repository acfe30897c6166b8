import ImageVerification.Proofs.Retry.Log
import ImageVerification.Verification

/-! What is logged of readings of the cache and of verifications: a value that is absent is no
error, and a verification is reported once.
-/

namespace ImageVerification

open Collaborator ImageVerification.Flow

variable {σ ε α β : Type} {ctx : Context} {task : Task} {steps : List (Step Call Reply)}
  {events : List Event}

/-- A reading that finds the key absent ends as a miss, and no error is logged. -/
theorem CacheAside.get_absent {key : String} {result : Option (Outcome String)}
    (path : Path (get ctx task key) steps events result)
    (absent : .called (.cacheGet key) (some (.ok (.ok none))) ∈ steps)
    : result = some (.error (.failed task.operation task.correlationId .miss))
      ∧ ∀ event ∈ events, event.level ≠ .error := by
  let read : RetryPlan.Attempt Call Reply CacheFault (Option String) :=
    fun ctx => perform ctx (Call.cacheGet key)
  -- An absent key is a value of the attempt and no fault, so it is not tried again.
  have succeeds {steps : List (Step Call Reply)}
      {outcome : Option (Except Interrupt (Except CacheFault (Option String)))}
      (tried : Path (read ctx) steps [] outcome)
      (member : .called (.cacheGet key) (some (.ok (.ok none))) ∈ steps)
      : outcome = some (.ok (.ok none)) := by
    obtain ⟨rfl, -⟩ := tried.perform_eq
    cases List.mem_singleton.mp member
    rfl
  have silent {steps : List (Step Call Reply)} {events : List Event}
      {outcome : Option (Except Interrupt (Except CacheFault (Option String)))}
      (tried : Path (read ctx) steps events outcome)
      : events = [] :=
    tried.perform_eq.2
  have proceeds {steps : List (Step Call Reply)} {events : List Event}
      {found : Option (Outcome (Option String))}
      (path : Path (RetryPlan.cache.repeatAttempts ctx task read) steps events found)
      : RetryPlan.cache.Proceeds task (read ctx) 1 steps events found :=
    RetryPlan.repeatAttempts_proceeds silent (by decide) (by decide) path
  cases path.of_bind with
  | cut attempts => cases ((proceeds attempts).of_success succeeds nofun absent).1
  | onward attempts relay =>
      obtain ⟨rfl, rfl, rfl⟩ := relay.done_eq
      rw [List.append_nil] at absent ⊢
      obtain ⟨found, harmless⟩ := (proceeds attempts).of_success succeeds nofun absent
      cases found
      exact ⟨rfl, harmless⟩

namespace Verification

open RetryPlan (attemptMessages)

/-- What is logged last of a verification. -/
def report : Option (Except StageFailure VerificationOutcome) → List Event
  | none => []
  | some (.error failure) =>
      [⟨.error, "verification aborted",
        [("stage", .text failure.operation), ("request_id", .text failure.correlationId),
         ("error", .shown failure.text)]⟩]
  | some (.ok outcome) =>
      [⟨.info, "verification completed",
        [("request_id", .shown outcome.record.requestId), ("user_id", .text outcome.record.userId),
         ("score", .double outcome.record.score.widen), ("success", .bool outcome.record.success),
         ("latency_ms", .double outcome.record.latency)]⟩]

/-- Whatever becomes of the flow, it is reported once, after entries about attempts. -/
def Reported (flow : Action (Except StageFailure VerificationOutcome)) : Prop :=
  ∀ steps events result,
    Path flow steps events result
    → ∃ earlier,
        events = earlier ++ report result ∧ ∀ event ∈ earlier, event.message ∈ attemptMessages

/-- A stage that aborts reports its failure once, and nothing else. -/
theorem abort_reported (failure : StageFailure) : Reported (abort failure) := by
  intro steps events result path
  obtain ⟨-, rfl, rfl⟩ := path.note_done_eq
  exact ⟨[], rfl, nofun⟩

/-- To read the clock changes nothing about the report of what follows. -/
theorem reported_now {next : Reading → Action (Except StageFailure VerificationOutcome)}
    (reported : ∀ reading, Reported (next reading))
    : Reported (.now next) := by
  intro steps events result path
  cases path with
  | @now _ reading _ _ _ rest => exact reported reading _ _ _ rest

/-- Nor does drawing a name. -/
theorem reported_fresh {next : String → Action (Except StageFailure VerificationOutcome)}
    (reported : ∀ name, Reported (next name))
    : Reported (.fresh next) := by
  intro steps events result path
  cases path with
  | @fresh _ name _ _ _ rest => exact reported name _ _ _ rest

/-- Nor does a single call, whatever its reply. -/
theorem reported_perform {request : Call}
    {f : Except Interrupt (Reply request) → Action (Except StageFailure VerificationOutcome)}
    (reported : ∀ reply, Reported (f reply))
    : Reported ((perform ctx request).bind f) := by
  intro steps events result path
  cases path with
  | unanswered => exact ⟨[], rfl, nofun⟩
  | @call _ _ _ reply _ _ _ rest => exact reported reply _ _ _ rest

/-- A stage of attempts at a call and what follows it. -/
theorem reported_bind [Fault ε] {plan : RetryPlan} {op : RetryPlan.Attempt Call Reply ε α}
    {f : Except (OperationFailure ε) α → Action (Except StageFailure VerificationOutcome)}
    (silent : ∀ {steps events outcome}, Path (op ctx) steps events outcome → events = [])
    (short : plan.longestWait.millis < Word.limit64) (several : 1 < plan.attempts)
    (next : ∀ found, Reported (f found))
    : Reported ((plan.repeatAttempts ctx task op).bind f) := by
  intro steps events result path
  cases path.of_bind with
  | cut attempts =>
      have proceeds := RetryPlan.repeatAttempts_proceeds silent short several attempts
      exact ⟨events, (List.append_nil _).symm, proceeds.message_mem⟩
  | @onward found _ _ noted _ _ attempts rest =>
      have proceeds := RetryPlan.repeatAttempts_proceeds silent short several attempts
      obtain ⟨earlier, rfl, related⟩ := next found _ _ _ rest
      refine ⟨noted ++ earlier, (List.append_assoc ..).symm, ?_⟩
      exact List.forall_mem_append.mpr ⟨proceeds.message_mem, related⟩

/-- The last stage reports what it comes to, a failure of its write included. -/
theorem cacheResult_reported (ctx : Context) (verdict : Verdict) (record : Record)
    : Reported (cacheResult ctx verdict record) := by
  refine reported_bind (fun tried => tried.perform_eq.2) (by decide) (by decide) ?_
  intro found
  match found with
  | .error failure => exact abort_reported _
  | .ok () =>
      intro steps events result path
      obtain ⟨-, rfl, rfl⟩ := path.note_done_eq
      exact ⟨[], rfl, nofun⟩

/-- So does the save with what comes after it. -/
theorem saveRecord_reported (ctx : Context) (verdict : Verdict) (record : Record)
    : Reported (saveRecord ctx verdict record) := by
  refine reported_bind (fun tried => tried.perform_eq.2) (by decide) (by decide) ?_
  intro found
  match found with
  | .error failure => exact abort_reported _
  | .ok () => exact cacheResult_reported ctx verdict record

/-- So does scoring, and all that comes after it. -/
theorem scoreImage_reported (ctx : Context) (requestId userId : String) (image : Bytes)
    : Reported (scoreImage ctx requestId userId image) := by
  refine reported_now fun started => reported_perform fun reply => ?_
  match reply with
  | .error kind => exact abort_reported _
  | .ok (.error fault) => exact abort_reported _
  | .ok (.ok verdict) => exact reported_now fun finished => saveRecord_reported ctx verdict _

/-- A verification reports its outcome exactly once; by its stages, from the last to the first. -/
theorem verify_reported (ctx : Context) (userId : String) (image : Bytes)
    : Reported (verify ctx userId image) := by
  refine reported_fresh fun requestId => ?_
  refine reported_bind (fun tried => tried.perform_eq.2) (by decide) (by decide) ?_
  intro found
  match found with
  | .error failure => exact abort_reported _
  | .ok () => exact scoreImage_reported ctx requestId userId image

end Verification

/-- The log tells what has happened: of attempts at whatever it is, each that is repeated and how
the run has ended; of a key that is absent, no failure; of a verification, exactly one entry that it
was aborted, with the stage and the request, or that it was completed.
-/
theorem log_tells_run
    : (∀ {ε α σ : Type} [Fault ε] (plan : RetryPlan) (task : Task)
          (env : Environment Unit (fun _ => Except ε α) σ) (limit : Option Instant) (ctx : Context)
          (world : World Unit σ),
        let attempts := plan.repeatAttempts ctx task RetryPlan.scriptedOp
        plan.LogsAttempts task world (attempts.steps env limit world)
          (attempts.run env limit world).1 (attempts.run env limit world).2)
      ∧ (∀ {σ : Type} (env : Environment Call Reply σ) (limit : Option Instant) (ctx : Context)
          (task : Task) (key : String) (world : World Call σ),
        let reading := CacheAside.get ctx task key
        .called (.cacheGet key) (some (.ok (.ok none))) ∈ reading.steps env limit world
        → ∃ logged,
            (reading.run env limit world).1
              = some (.error (.failed task.operation task.correlationId .miss))
            ∧ (reading.run env limit world).2.events = world.events ++ logged
            ∧ ∀ event ∈ logged, event.level ≠ .error)
      ∧ ∀ {σ : Type} (env : Environment Call Reply σ) (limit : Option Instant) (ctx : Context)
          (userId : String) (image : Bytes) (world : World Call σ),
        let verification := Verification.verify ctx userId image
        ∃ earlier,
          (verification.run env limit world).2.events
            = world.events ++ (earlier ++ Verification.report (verification.run env limit world).1)
          ∧ ∀ event ∈ earlier,
              event.message ≠ "verification aborted"
              ∧ event.message ≠ "verification completed" := by
  refine ⟨fun plan task env limit ctx world => plan.repeatAttempts_log task env limit ctx world,
    fun env limit ctx task key world absent => ?_, fun env limit ctx userId image world => ?_⟩
  · obtain ⟨logged, grown, path⟩ := path_run env limit (CacheAside.get ctx task key) world
    obtain ⟨missed, harmless⟩ := CacheAside.get_absent path absent
    exact ⟨logged, missed, grown, harmless⟩
  · obtain ⟨events, grown, path⟩ := path_run env limit (Verification.verify ctx userId image) world
    obtain ⟨earlier, rfl, related⟩ := Verification.verify_reported ctx userId image _ _ _ path
    refine ⟨earlier, grown, fun event member => ?_⟩
    -- Neither message is one of those of attempts.
    have other := related event member
    constructor
    · intro same
      rw [same] at other
      exact absurd other (by decide)
    · intro same
      rw [same] at other
      exact absurd other (by decide)

/-- Two time-outs are warned of with the waits after them, and then the success is told. -/
theorem recovering_logged
    : 1 < RetryPlan.store.attempts
      ∧ RetryPlan.store.longestWait.millis < Word.limit64
      ∧ ((RetryPlan.store.repeatAttempts .background ⟨"repository.save_log", "r"⟩
            RetryPlan.scriptedOp).run (RetryPlan.scripted RetryPlan.recovering) none
          (.start 0)).2.events
        = [⟨.warn, "transient error encountered",
            [("operation", .text "repository.save_log"), ("request_id", .text "r"),
             ("attempt", .natural 1), ("backoff_ms", .natural 100),
             ("error", .shown "timed out")]⟩,
          ⟨.warn, "transient error encountered",
            [("operation", .text "repository.save_log"), ("request_id", .text "r"),
             ("attempt", .natural 2), ("backoff_ms", .natural 200),
             ("error", .shown "timed out")]⟩,
          ⟨.info, "operation succeeded after retry",
            [("operation", .text "repository.save_log"), ("request_id", .text "r"),
             ("attempt", .natural 3)]⟩] := by
  have logged := (log_tells_run.1 RetryPlan.store ⟨"repository.save_log", "r"⟩
    (RetryPlan.scripted RetryPlan.recovering) none .background (.start 0)).several
    (by decide) (by decide)
  refine ⟨by decide, by decide, logged.trans ?_⟩
  decide +kernel

end ImageVerification
