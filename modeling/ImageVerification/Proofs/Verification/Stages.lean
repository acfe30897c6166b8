import ImageVerification.Proofs.Verification.Repeats

/-! The stages of a verification: which calls it makes in which order, and how the stage that it
does not pass decides what is reported.
-/

namespace ImageVerification.Verification

open Collaborator ImageVerification.Flow

variable {σ : Type}

/-- Which exchanges a verification may have, and with what result if any. -/
abbrev Course (σ : Type) :=
  List (Exchange Call Reply σ) → Option (Except StageFailure VerificationOutcome) → Prop

/-- A stage with at most so many attempts at a call. The verification stops at it with what the
stage has to report under its task, or it passes it: the last call has succeeded, and what is next
goes on from there.
-/
inductive StageThen (ctx : Context) (now : Instant) (task : Task) (request : Call) (most : Nat)
    (next : Exchange Call Reply σ → Course σ) : Course σ where
  | stopped {attempts : List (Exchange Call Reply σ)} {ending : Ending}
      {result : Option (Except StageFailure VerificationOutcome)}
      (repeats : Repeats request most attempts ending) (notPassed : ending ≠ .succeeded)
      (reports : Reports ctx task id now ending result)
      : StageThen ctx now task request most next attempts result
  | passed {failures rest : List (Exchange Call Reply σ)} {last : Exchange Call Reply σ}
      {result : Option (Except StageFailure VerificationOutcome)}
      (passing : FailedInPassing request failures) (few : failures.length < most)
      (asked : last.request = request) (succeeded : last.ending = .succeeded)
      (later : next last rest result)
      : StageThen ctx now task request most next (failures ++ [last] ++ rest) result

/-- A stage may be passed with its first call. -/
theorem StageThen.passed_at_once {ctx : Context} {now : Instant} {task : Task} {request : Call}
    {most : Nat} {next : Exchange Call Reply σ → Course σ} {only : Exchange Call Reply σ}
    {rest : List (Exchange Call Reply σ)}
    {result : Option (Except StageFailure VerificationOutcome)} (asked : only.request = request)
    (succeeded : only.ending = .succeeded) (later : next only rest result)
    : StageThen ctx now task request (most + 1) next (only :: rest) result :=
  .passed (failedInPassing_nil request) (Nat.succ_pos most) asked succeeded later

/-- What holds of the calls of a stage and of what follows it holds of the whole course. -/
theorem StageThen.forall_mem {ctx : Context} {now : Instant} {task : Task} {request : Call}
    {most : Nat} {next : Exchange Call Reply σ → Course σ} {trace : List (Exchange Call Reply σ)}
    {result : Option (Except StageFailure VerificationOutcome)}
    (stages : StageThen ctx now task request most next trace result)
    {property : Exchange Call Reply σ → Prop}
    (own : ∀ exchange, exchange.request = request → property exchange)
    (later : ∀ last rest, next last rest result → ∀ exchange ∈ rest, property exchange)
    : ∀ exchange ∈ trace, property exchange := by
  intro exchange member
  cases stages with
  | stopped repeats notPassed reports => exact own exchange (repeats.asked exchange member)
  | passed passing few asked succeeded follows =>
      rcases List.mem_append.mp member with here | after
      · exact own exchange (passing.asked asked exchange here)
      · exact later _ _ follows exchange after

/-- After the last stage there is nothing to be done. -/
def Finished (outcome : VerificationOutcome) : Course σ := fun trace result =>
  trace = [] ∧ result = some (.ok outcome)

def markCall (requestId : String) : Call :=
  .cacheSet ("verification:" ++ requestId) "processing" ⟨60 * 1000000000, by decide⟩

def snapshotCall (record : Record) : Call :=
  .cacheSet ("verification:" ++ record.requestId) (Snapshot.ofRecord record).encode
    ⟨300 * 1000000000, by decide⟩

/-- The scorer has told a verdict. -/
def Tells (exchange : Exchange Call Reply σ) (userId : String) (image : Bytes)
    (deadline : Option Instant) (verdict : Verdict)
    : Prop :=
  exchange
  = ⟨.score userId image deadline, some (.ok (.ok verdict)), exchange.before, exchange.after⟩

/-- The record of a verdict that an exchange has brought; its times are those of the exchange. -/
def recordOf (wall : Instant → Timestamp) (requestId userId : String) (image : Bytes)
    (verdict : Verdict) (scored : Exchange Call Reply σ)
    : Record :=
  {
    requestId
    userId
    fingerprint := Fingerprint.ofImage image
    details := details verdict (Fingerprint.ofImage image)
    score := verdict.score
    success := verdict.success
    latency := latency scored.before.clock scored.after.clock
    createdAt := wall scored.after.clock
  }

/-- The stage of a record that is saved: its snapshot is cached. -/
def CacheStage (ctx : Context) (verdict : Verdict) (record : Record) (now : Instant) : Course σ :=
  StageThen ctx now ⟨"cache.set.result", record.requestId⟩ (snapshotCall record) 3 fun _ =>
    Finished ⟨record.requestId, verdict, record⟩

/-- The stages of a record: it is saved before its snapshot is cached. -/
def SaveStages (ctx : Context) (verdict : Verdict) (record : Record) (now : Instant) : Course σ :=
  StageThen ctx now ⟨"save_log", record.requestId⟩ (.storeSave record) 3 fun _ =>
    CacheStage ctx verdict record now

/-- The stages of a request that has been marked: the scorer is asked once, and what it tells goes
into a record.
-/
def ScoreStages (ctx : Context) (wall : Instant → Timestamp) (userId : String) (image : Bytes)
    (requestId : String) (now : Instant)
    : Course σ :=
  StageThen ctx now ⟨"grpc_process_image", requestId⟩ (.score userId image ctx.deadline) 1
    fun scored rest result =>
      ∃ verdict,
        Tells scored userId image ctx.deadline verdict
        ∧ SaveStages ctx verdict (recordOf wall requestId userId image verdict scored) now rest
            result

/-- The course of a verification up to an instant. -/
def Stages (ctx : Context) (wall : Instant → Timestamp) (userId : String) (image : Bytes)
    (requestId : String) (now : Instant)
    : Course σ :=
  StageThen ctx now ⟨"cache.set.processing", requestId⟩ (markCall requestId) 3 fun _ =>
    ScoreStages ctx wall userId image requestId now

variable {ε α : Type} {env : Environment Call Reply σ} {limit : Option Instant} {ctx : Context}
  {world after : World Call σ} {trace : List (Exchange Call Reply σ)}
  {result : Option (Except StageFailure VerificationOutcome)}

/-- A verification that is aborted reports its failure and makes no more calls. -/
theorem goes_abort {failure : StageFailure}
    (goes : Goes env limit (abort failure) world trace result after)
    : trace = [] ∧ result = some (.error failure) ∧ after.clock = world.clock :=
  Goes.note_done goes

/-- A failure is reported under the tag of the stage, with the fault as one of its kind. -/
theorem reports_mapFault {task : Task} {wrap : ε → StageFault} {now : Instant} {ending : Ending}
    {failure : OperationFailure ε}
    (reports : Reports (α := α) ctx task wrap now ending (some (.error failure))) (tag : String)
    : ending ≠ .succeeded
      ∧ Reports (α := VerificationOutcome) ctx ⟨tag, task.correlationId⟩ id now ending
          (some (.error (failure.mapFault tag wrap))) := by
  cases reports with
  | interrupted stopped => exact ⟨nofun, .interrupted stopped⟩
  | failed => exact ⟨nofun, .failed⟩

/-- Attempts whose failure aborts the verification, and what follows their success. -/
theorem stage_of_bind {attempts : Action (Except (OperationFailure ε) α)}
    {f : Except (OperationFailure ε) α → Action (Except StageFailure VerificationOutcome)}
    {own : Task} {request : Call} {most : Nat} {wrap : ε → StageFault} {tag : String}
    {course : Course σ}
    (repeated : ∀ {trace result after},
      Goes env limit attempts world trace result after
      → ∃ ending,
          Repeats request most trace ending ∧ Reports ctx own wrap after.clock ending result)
    (aborts : ∀ failure, f (.error failure) = abort (failure.mapFault tag wrap))
    (goesOn : ∀ value {middle rest},
      Goes env limit (f (.ok value)) middle rest result after → course rest result)
    (goes : Goes env limit (attempts.bind f) world trace result after)
    : StageThen ctx after.clock ⟨tag, own.correlationId⟩ request most (fun _ => course) trace
        result := by
  rcases goes.bind_cases with ⟨cut, rfl⟩ | ⟨value, middle, first, rest, ended, follows, rfl⟩
  · obtain ⟨ending, repeats, reports⟩ := repeated cut
    cases reports
    exact .stopped repeats nofun .underway
  · obtain ⟨ending, repeats, reports⟩ := repeated ended
    -- What the attempts hand on decides whether the stage is passed.
    cases value with
    | error failure =>
        rw [aborts] at follows
        obtain ⟨rfl, rfl, clock⟩ := goes_abort follows
        obtain ⟨notPassed, reports⟩ := reports_mapFault reports tag
        rw [List.append_nil, clock]
        exact .stopped repeats notPassed reports
    | ok value =>
        cases reports
        obtain ⟨failures, last, rfl, passing, few, asked, succeeded⟩ := repeats.concluded (.inl rfl)
        exact .passed passing few asked succeeded (goesOn value follows)

/-- The last stage goes as it should: the snapshot is written, and nothing comes after it. -/
theorem cacheResult_staged {verdict : Verdict} {record : Record}
    (goes : Goes env limit (cacheResult ctx verdict record) world trace result after)
    : CacheStage ctx verdict record after.clock trace result := by
  refine stage_of_bind set_repeats (fun _ => rfl) ?_ goes
  intro _ middle rest finished
  obtain ⟨noCalls, same, -⟩ := finished.note_done
  exact ⟨noCalls, same⟩

/-- From the save on a verification goes as it should. -/
theorem saveRecord_staged {verdict : Verdict} {record : Record}
    (goes : Goes env limit (saveRecord ctx verdict record) world trace result after)
    : SaveStages ctx verdict record after.clock trace result :=
  stage_of_bind save_repeats (fun _ => rfl) (fun _ => cacheResult_staged) goes

/-- From the scorer on a verification goes as it should. Witness: the clock is read before and after
the call, so the record is the one of its reply.
-/
theorem scoreImage_staged {requestId userId : String} {image : Bytes}
    (goes : Goes env limit (scoreImage ctx requestId userId image) world trace result after)
    : ScoreStages ctx env.wall userId image requestId after.clock trace result := by
  -- Reading the clocks before the call takes no time.
  have goes : Goes env limit ((perform ctx (.score userId image ctx.deadline)).bind _) world trace
      result after := ⟨goes.traced, goes.ran⟩
  have tried {first middle reply}
      (asked : Goes env limit (perform ctx (.score userId image ctx.deadline)) world first reply
        middle)
      : Tries ctx (.score userId image ctx.deadline) StageFault.scorer middle.clock first reply :=
    perform_tries (fun _ => .rfl) (Exchange.ending_score reply) asked
  -- A failure is reported as of attempts that have come to nothing.
  have fails {first rest middle value failure}
      (asked : Goes env limit (perform ctx (.score userId image ctx.deadline)) world first
        (some value) middle)
      (settled : Task.settled ⟨"grpc_process_image", requestId⟩ value = .error failure)
      (aborts : Goes env limit (abort (failure.mapFault "grpc_process_image" .scorer)) middle rest
        result after)
      : ScoreStages ctx env.wall userId image requestId after.clock (first ++ rest) result := by
    obtain ⟨rfl, rfl, clock⟩ := goes_abort aborts
    have reports := (tried asked).reports ⟨"grpc_process_image", requestId⟩
    rw [settled] at reports
    obtain ⟨notPassed, reports⟩ := reports_mapFault reports "grpc_process_image"
    rw [List.append_nil, clock]
    exact .stopped ((tried asked).last (Nat.le_refl 1) fun _ _ _ => rfl) notPassed reports
  rcases goes.bind_cases with ⟨cut, rfl⟩ | ⟨reply, middle, first, rest, asked, follows, rfl⟩
  · exact .stopped ((tried cut).last (Nat.le_refl 1) fun _ _ _ => rfl) nofun .underway
  · match reply with
    | .error kind => exact fails asked rfl follows
    | .ok (.error fault) => exact fails asked rfl follows
    | .ok (.ok verdict) =>
        rcases asked.perform_cases with ⟨kind, -, interrupted, -⟩ | ⟨rfl, begun⟩
        · cases interrupted
        · have saved := saveRecord_staged ⟨follows.traced, follows.ran⟩
          rw [List.singleton_append]
          exact .passed_at_once rfl rfl ⟨verdict, rfl, saved⟩

/-- A verification goes through its stages under the name that is drawn for it. -/
theorem verify_staged {userId : String} {image : Bytes}
    (goes : Goes env limit (verify ctx userId image) world trace result after)
    : Stages ctx env.wall userId image (env.name world.named) after.clock trace result := by
  have goes : Goes env limit ((CacheAside.set ctx ⟨Stage.mark, env.name world.named⟩ _ _ _).bind _)
      { world with named := world.named + 1 } trace result after := ⟨goes.traced, goes.ran⟩
  exact stage_of_bind set_repeats (fun _ => rfl) (fun _ => scoreImage_staged) goes

/-- Whatever the collaborators do and wherever a verification is stopped: the calls it has begun by
then, and its result if it has one, are those of a course through the stages.
-/
theorem verify_stages (env : Environment Call Reply σ) (limit : Option Instant) (ctx : Context)
    (userId : String) (image : Bytes) (world : World Call σ)
    : let trace := (verify ctx userId image).exchanges env limit world
      let ended := (verify ctx userId image).run env limit world
      Conducted env world trace ended.2
      ∧ Stages ctx env.wall userId image (env.name world.named) ended.2.clock trace ended.1 := by
  intro trace ended
  have goes : Goes env limit (verify ctx userId image) world trace ended.1 ended.2 :=
    goes_run env limit _ world
  exact ⟨goes.conducted, verify_staged goes⟩

end ImageVerification.Verification
