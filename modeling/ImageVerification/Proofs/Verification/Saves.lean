import ImageVerification.Proofs.Verification.Stages

/-! What a verification does to a store: where in its course it saves, and what leaves the store as
it is.
-/

namespace ImageVerification

open Collaborator ImageVerification.Flow

variable {σ τ : Type} {env : Environment Call Reply σ} {exchange : Exchange Call Reply σ}

/-- A part of the state that is changed by nothing but saves being carried out. -/
structure ChangedBySaves (env : Environment Call Reply σ) (view : σ → τ) : Prop where
  accept : ∀ request now state, view (env.accept request now state).2 = view state
  others :
    ∀ request now state instant,
      (∀ record, request ≠ .storeSave record)
      → view (env.carryOut request now state instant).2 = view state

/-- Exchanges of which none is about saving. -/
def NoSaves (trace : List (Exchange Call Reply σ)) : Prop :=
  ∀ exchange ∈ trace, ∀ record, exchange.request ≠ .storeSave record

/-- A call that is no save leaves the view, whether its reply is heard or not. -/
theorem ChangedBySaves.carried {view : σ → τ} (only : ChangedBySaves env view) {request : Call}
    {now : Instant} {state left : σ} {reply : Option (Except Interrupt (Reply request))}
    (carried : Carried env request now state reply left)
    (noSave : ∀ record, request ≠ .storeSave record)
    : view left = view state := by
  cases carried with
  | accepted unanswered => exact only.accept request now state
  | answered instant => exact only.others request now state instant noSave
  | unheard instant unanswered late => exact only.others request now state instant noSave

/-- A trace without saves leaves the view, by induction on its exchanges. -/
theorem ChangedBySaves.linked {view : σ → τ} (only : ChangedBySaves env view) {first last : σ}
    {trace : List (Exchange Call Reply σ)} (linked : Linked env first trace last)
    (noSaves : NoSaves trace)
    : view last = view first := by
  refine linked.keeps view ?_
  intro exchange member occurs
  obtain ⟨ctx, begun⟩ := occurs
  exact only.carried begun.carried (noSaves exchange member)

/-- Where only one call is made and it is no save, nothing is saved. -/
theorem noSaves_of_asked {trace : List (Exchange Call Reply σ)} {request : Call}
    (asked : ∀ exchange ∈ trace, exchange.request = request)
    (noSave : ∀ record, request ≠ .storeSave record)
    : NoSaves trace := by
  intro exchange member record saves
  exact noSave record ((asked exchange member).symm.trans saves)

theorem NoSaves.append {early late : List (Exchange Call Reply σ)} (before : NoSaves early)
    (rest : NoSaves late)
    : NoSaves (early ++ late) := by
  intro exchange member
  rcases List.mem_append.mp member with member | member
  · exact before exchange member
  · exact rest exchange member

/-- A save that fails has been carried out with that fault. -/
theorem Flow.Occurs.save_failed {record : Record} {fault : StageFault}
    (occurs : Occurs env exchange) (asked : exchange.request = .storeSave record)
    (failed : exchange.ending = .failed fault)
    : ∃ own instant,
        fault = .store own
        ∧ env.carryOut (.storeSave record) exchange.before.clock exchange.before.state instant
          = (.error own, exchange.after.state) := by
  obtain ⟨ctx, begun⟩ := occurs
  rcases exchange with ⟨request, reply, before, after⟩
  obtain rfl : request = .storeSave record := asked
  rw [Exchange.ending_storeSave] at failed
  obtain ⟨own, rfl, rfl⟩ := Ending.ofAttempt_failed.mp failed
  obtain ⟨instant, took⟩ := begun.carried.of_answer
  exact ⟨own, instant, rfl, took⟩

/-- A save that succeeds has been carried out. -/
theorem Flow.Occurs.save_succeeded {record : Record} (occurs : Occurs env exchange)
    (asked : exchange.request = .storeSave record) (succeeded : exchange.ending = .succeeded)
    : ∃ instant,
        env.carryOut (.storeSave record) exchange.before.clock exchange.before.state instant
        = (.ok (), exchange.after.state) := by
  obtain ⟨ctx, begun⟩ := occurs
  rcases exchange with ⟨request, reply, before, after⟩
  obtain rfl : request = .storeSave record := asked
  rw [Exchange.ending_storeSave] at succeeded
  obtain ⟨⟨⟩, rfl⟩ := Ending.ofAttempt_succeeded.mp succeeded
  exact begun.carried.of_answer

/-- Neither the cache nor the scorer reports conflicts. -/
theorem Exchange.isConflict_cacheSet {key value : String} {ttl : Duration} {fault : StageFault}
    (asked : exchange.request = .cacheSet key value ttl) (failed : exchange.ending = .failed fault)
    : fault.isConflict = false := by
  rcases exchange with ⟨request, reply, before, after⟩
  obtain rfl : request = .cacheSet key value ttl := asked
  rw [Exchange.ending_cacheSet] at failed
  obtain ⟨own, -, rfl⟩ := Ending.ofAttempt_failed.mp failed
  rfl

/-- No fault of the scorer is a conflict. -/
theorem Exchange.isConflict_score {userId : String} {image : Bytes} {deadline : Option Instant}
    {fault : StageFault} (asked : exchange.request = .score userId image deadline)
    (failed : exchange.ending = .failed fault)
    : fault.isConflict = false := by
  rcases exchange with ⟨request, reply, before, after⟩
  obtain rfl : request = .score userId image deadline := asked
  rw [Exchange.ending_score] at failed
  obtain ⟨own, -, rfl⟩ := Ending.ofAttempt_failed.mp failed
  rfl

namespace Verification

variable {ctx : Context} {now : Instant} {requestId userId : String} {image : Bytes}
  {trace : List (Exchange Call Reply σ)}
  {result : Option (Except StageFailure VerificationOutcome)}

section Stopped

variable {task : Task} {request : Call} {most : Nat} {ending : Ending}

/-- What is reported of a stage that is not passed carries its tag, and the fault is that of a call.
-/
theorem stopped_cases (repeats : Repeats request most trace ending)
    (notPassed : ending ≠ .succeeded) (reports : Reports ctx task id now ending result)
    : result = none
      ∨ ∃ failure,
          result = some (.error failure)
          ∧ failure.operation = task.operation
          ∧ failure.correlationId = task.correlationId
          ∧ ∀ fault, failure.fault? = some fault →
              ∃ earlier last,
                trace = earlier ++ [last]
                ∧ FailedInPassing request earlier
                ∧ last.request = request
                ∧ last.ending = .failed fault := by
  cases reports with
  | underway => exact .inl rfl
  | interrupted stopped => exact .inr ⟨_, rfl, rfl, rfl, nofun⟩
  | failed =>
      refine .inr ⟨_, rfl, rfl, rfl, ?_⟩
      rintro _ ⟨⟩
      obtain ⟨earlier, last, split, passing, -, asked, ended⟩ :=
        repeats.concluded (.inr ⟨_, rfl⟩)
      exact ⟨earlier, last, split, passing, asked, ended⟩
  | succeeded => exact absurd rfl notPassed

/-- A stage whose call never reports a conflict does not stop with one. -/
theorem stopped_without_conflict {failure : StageFailure}
    (repeats : Repeats request most trace ending) (notPassed : ending ≠ .succeeded)
    (reports : Reports ctx task id now ending result)
    (harmless : ∀ (exchange : Exchange Call Reply σ) fault,
      exchange.request = request → exchange.ending = .failed fault → fault.isConflict = false)
    (reported : result = some (.error failure))
    : failure.fault?.any StageFault.isConflict = false := by
  rcases stopped_cases repeats notPassed reports with unreported | ⟨own, same, -, -, caused⟩
  · cases unreported.symm.trans reported
  · cases same.symm.trans reported
    cases found : failure.fault? with
    | none => rfl
    | some fault =>
        obtain ⟨-, last, -, -, asked, failed⟩ := caused fault found
        exact harmless last fault asked failed

end Stopped

/-- The last stage makes one call only: the snapshot of its record is written. -/
theorem CacheStage.asked {verdict : Verdict} {record : Record}
    (stage : CacheStage ctx verdict record now trace result)
    : ∀ exchange ∈ trace, exchange.request = snapshotCall record := by
  refine StageThen.forall_mem stage (fun _ asked => asked) ?_
  intro last rest finished exchange member
  rw [finished.1] at member
  cases member

/-- The stages of a record call for nothing else than saving it and caching its snapshot. -/
theorem SaveStages.asked {verdict : Verdict} {record : Record}
    (stages : SaveStages ctx verdict record now trace result)
    : ∀ exchange ∈ trace,
        exchange.request = .storeSave record ∨ exchange.request = snapshotCall record :=
  StageThen.forall_mem stages (fun _ asked => .inl asked) fun _ _ caches exchange member =>
    .inr (CacheStage.asked caches exchange member)

/-- Nothing is saved before the scorer has told its verdict. -/
theorem noSaves_before {lead : List (Exchange Call Reply σ)} {deadline : Option Instant}
    {verdict : Verdict} (marks : ∀ exchange ∈ lead, exchange.request = markCall requestId)
    (tells : Tells exchange userId image deadline verdict)
    : NoSaves (lead ++ [exchange]) := by
  refine (noSaves_of_asked marks (by simp [markCall])).append ?_
  intro other member
  rw [List.mem_singleton.mp member, show exchange = _ from tells]
  simp

/-- What a verification comes to that does not get to the store. -/
def GivesUp (result : Option (Except StageFailure VerificationOutcome)) : Prop :=
  ∀ reported, result = some reported →
    ∃ failure,
      reported = .error failure
      ∧ failure.operation ≠ "cache.set.result"
      ∧ failure.fault?.any StageFault.isConflict = false

/-- A stage before the last that stops without success gives the verification up, with a failure
that is no conflict.
-/
theorem givesUp_of_stopped {task : Task} {request : Call} {most : Nat} {ending : Ending}
    (repeats : Repeats request most trace ending) (notPassed : ending ≠ .succeeded)
    (reports : Reports ctx task id now ending result)
    (harmless : ∀ (exchange : Exchange Call Reply σ) fault,
      exchange.request = request → exchange.ending = .failed fault → fault.isConflict = false)
    (early : task.operation ≠ "cache.set.result")
    : GivesUp result := by
  intro reported same
  rcases stopped_cases repeats notPassed reports with unreported | ⟨failure, own, tagged, -, -⟩
  · cases unreported.symm.trans same
  · cases own.symm.trans same
    have conflictFree := stopped_without_conflict repeats notPassed reports harmless same
    exact ⟨failure, rfl, tagged ▸ early, conflictFree⟩

/-- A verification gives up before it saves anything, or it is told a verdict and saves the record
of it.
-/
theorem Stages.cases {wall : Instant → Timestamp}
    (stages : Stages ctx wall userId image requestId now trace result)
    : NoSaves trace ∧ GivesUp result
      ∨ ∃ lead scored verdict rest,
          trace = lead ++ [scored] ++ rest
          ∧ (∀ exchange ∈ lead, exchange.request = markCall requestId)
          ∧ Tells scored userId image ctx.deadline verdict
          ∧ SaveStages ctx verdict (recordOf wall requestId userId image verdict scored) now rest
              result := by
  cases stages with
  | stopped repeats notPassed reports =>
      refine .inl ⟨noSaves_of_asked repeats.asked (by simp [markCall]), ?_⟩
      exact givesUp_of_stopped repeats notPassed reports
        (fun _ _ => Exchange.isConflict_cacheSet) (by simp)
  | @passed failures rest last _ passing few asked succeeded later =>
      have marks := passing.asked asked
      cases later with
      | stopped repeats notPassed reports =>
          have marking := noSaves_of_asked marks (by simp [markCall])
          refine .inl ⟨marking.append (noSaves_of_asked repeats.asked (by simp)), ?_⟩
          exact givesUp_of_stopped repeats notPassed reports
            (fun _ _ => Exchange.isConflict_score) (by simp)
      | @passed failures' rest scored _ passing' few' asked' succeeded' later =>
          obtain ⟨verdict, tells, saves⟩ := later
          -- The scorer is asked once, so nothing has failed before it tells its verdict.
          obtain rfl : failures' = [] := List.length_eq_zero_iff.mp (Nat.lt_one_iff.mp few')
          exact .inr ⟨failures ++ [last], scored, verdict, rest, by simp, marks, tells, saves⟩

end Verification

end ImageVerification
