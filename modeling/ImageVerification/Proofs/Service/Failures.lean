import ImageVerification.Proofs.Flow.Limits
import ImageVerification.Proofs.Flow.Outcomes
import ImageVerification.Proofs.Service.System
import ImageVerification.Proofs.Verification.Interruption
import ImageVerification.Proofs.Verification.Lookup
import ImageVerification.Proofs.Verification.Stages

/-! What the operations of the service report when they fail: the name of what they were doing, and
an interruption only if there was one.
-/

namespace ImageVerification

open Collaborator ImageVerification.Flow RetryPlan

variable {ε α : Type}

/-- What an outcome reports: the name of what has failed, and the interruption if it is one. -/
def failure? : Except (OperationFailure ε) α → Option (String × Option Interrupt)
  | .error failure => some (failure.operation, failure.interruption?)
  | .ok _ => none

namespace Service

def Answer.failure? : Answer → Option (String × Option Interrupt)
  | .verified outcome => ImageVerification.failure? outcome
  | .found outcome => ImageVerification.failure? outcome
  | .reported outcome => ImageVerification.failure? outcome
  | .summed outcome => ImageVerification.failure? outcome

end Service

/-- Under which names which calls are made. -/
inductive MadeAs : String → Call → Prop where
  | mark (requestId : String) : MadeAs "cache.set.processing" (Verification.markCall requestId)
  | score (userId : String) (image : Bytes) (deadline : Option Instant)
      : MadeAs "grpc_process_image" (.score userId image deadline)
  | save (record : Record) : MadeAs "save_log" (.storeSave record)
  | cacheResult (record : Record)
      : MadeAs "cache.set.result" (Verification.snapshotCall record)
  | find (requestId userId : String)
      : MadeAs "repository.find_by_request_and_user" (.storeFind requestId userId)
  | duplicates (owner : Option String) (fingerprint : String) (exclude : Option String)
      : MadeAs "repository.find_duplicates_by_hash" (.storeDuplicates owner fingerprint exclude)
  | totals : MadeAs "repository.aggregate_metrics" .storeTotals

/-- A failure goes by the name of the last call. -/
def NamesLast (last : Option Call) (failed : Option (String × Option Interrupt)) : Prop :=
  ∀ name why, failed = some (name, why) → ∃ call, last = some call ∧ MadeAs name call

theorem namesLast_none (last : Option Call) : NamesLast last none := nofun

/-- A failure under the name of the last call names it. -/
theorem namesLast_of_made {name : String} {call : Call} (made : MadeAs name call)
    (why : Option Interrupt)
    : NamesLast (some call) (some (name, why)) := by
  rintro _ _ ⟨⟩
  exact ⟨call, rfl, made⟩

/-- No interruption is reported. -/
def Uncut (failed : Option (String × Option Interrupt)) : Prop :=
  ∀ name kind, failed ≠ some (name, some kind)

/-- A failed operation is reported with its name, and with the interruption that cut it short. -/
theorem failure?_error_iff {failure : OperationFailure ε} {name : String} {kind : Interrupt}
    : failure? (.error failure : Except _ α) = some (name, some kind)
      ↔ failure.operation = name ∧ failure.cause = .interrupted kind := by
  obtain ⟨operation, correlationId, cause⟩ := failure
  cases cause <;> simp [failure?, OperationFailure.interruption?]

/-- A failure counts as uncut unless an interruption was its cause. -/
theorem uncut_error_iff {failure : OperationFailure ε}
    : Uncut (failure? (.error failure : Except _ α))
      ↔ ∀ kind, failure.cause ≠ .interrupted kind :=
  ⟨fun uncut kind cut => uncut _ kind (failure?_error_iff.mpr ⟨rfl, cut⟩),
    fun free _ kind cut => free kind (failure?_error_iff.mp cut).2⟩

/-- Wording a fault otherwise does not make it an interruption, nor the other way round. -/
theorem mapFault_interrupted_iff {δ : Type} {failure : OperationFailure ε} {operation : String}
    {f : ε → δ} {kind : Interrupt}
    : (failure.mapFault operation f).cause = .interrupted kind
      ↔ failure.cause = .interrupted kind := by
  obtain ⟨-, -, cause⟩ := failure
  cases cause <;> simp [OperationFailure.mapFault]

/-- An operation that was cut short reports so under a name. -/
theorem Verification.CutShort.reported {kind : Interrupt} {outcome : Except (OperationFailure ε) α}
    (cut : Verification.CutShort kind outcome)
    : ∃ name, failure? outcome = some (name, some kind) := by
  obtain ⟨failure, rfl, why⟩ := cut
  exact ⟨failure.operation, failure?_error_iff.mpr ⟨rfl, why⟩⟩

/-- A flow whose failures go by the names of its last calls, and which reports an interruption only
if it has lost a race.
-/
structure Candid (flow : Action (Except (OperationFailure ε) α)) : Prop where
  named : ∀ last, flow.EndsIn (fun last outcome => NamesLast last (failure? outcome)) last
  honest : flow.Yields (fun _ _ => True) fun outcome => Uncut (failure? outcome)

/-- Success has no failure to be candid about. -/
theorem candid_ok (value : α)
    : Candid (.done (.ok value) : Action (Except (OperationFailure ε) α)) :=
  ⟨fun last => namesLast_none last, nofun⟩

/-- A line of the log makes a flow no less candid. -/
theorem candid_note {event : Event} {flow : Action (Except (OperationFailure ε) α)}
    (candid : Candid flow)
    : Candid (.log event flow) :=
  ⟨candid.named, candid.honest⟩

theorem candid_now {next : Reading → Action (Except (OperationFailure ε) α)}
    (candid : ∀ reading, Candid (next reading))
    : Candid (.now next) :=
  ⟨fun last reading => (candid reading).named last, fun reading => (candid reading).honest⟩

theorem candid_fresh {next : String → Action (Except (OperationFailure ε) α)}
    (candid : ∀ name, Candid (next name))
    : Candid (.fresh next) :=
  ⟨fun last name => (candid name).named last, fun name => (candid name).honest⟩

/-- Nothing matters before a flow that is candid whatever has come before it. -/
theorem candid_bind {β : Type} {flow : Action β}
    {f : β → Action (Except (OperationFailure ε) α)} (candid : ∀ result, Candid (f result))
    : Candid (flow.bind f) :=
  ⟨fun _ => endsIn_bind fun last result => (candid result).named last,
    (yields_trivial _ flow).bind fun result _ => (candid result).honest⟩

/-- Attempts at a call under the name of a task, which report an interruption only if they have met
one.
-/
structure Attempting (task : Task) (request : Call)
    (flow : Action (Except (OperationFailure ε) α))
    : Prop where
  concludes : ∀ last, flow.EndsIn (Concludes task request) last
  honest : flow.Yields (fun _ _ => True) fun outcome => Uncut (failure? outcome)

section Attempting

variable {task : Task} {request : Call} {flow : Action (Except (OperationFailure ε) α)}

/-- An operation that attempts one call again and again is named after it, and fails by an
interruption only if there was one. Witness: what repeated attempts end in, and what they yield if
all calls are answered.
-/
theorem attempting_repeat [Fault ε] {plan : RetryPlan} {ctx : Context}
    {op : Attempt Call Reply ε α}
    (single : ∀ ctx last, (op ctx).EndsIn (fun last _ => last = some request) last)
    (answered : ∀ ctx,
      (op ctx).Yields (fun _ _ => True) fun result => ∃ outcome, result = .ok outcome ∧ True)
    : Attempting task request (plan.repeatAttempts ctx task op) := by
  refine ⟨plan.repeatAttempts_endsIn ctx task single, ?_⟩
  refine (plan.repeatAttempts_yields ctx task op answered).imp ?_
  rintro _ ⟨outcome, -, rfl⟩
  cases outcome with
  | ok value => exact nofun
  | error fault => exact uncut_error_iff.mpr nofun

/-- An operation that attempts a call is candid if its name is that of the call. -/
theorem Attempting.candid (attempting : Attempting task request flow)
    (made : MadeAs task.operation request)
    : Candid flow := by
  refine ⟨fun last => (attempting.concludes last).imp ?_, attempting.honest⟩
  rintro last outcome ⟨rfl, own⟩
  cases outcome with
  | ok value => exact namesLast_none _
  | error failure =>
      rw [failure?, own failure rfl]
      exact namesLast_of_made made _

/-- To write the cache attempts that write. -/
theorem attempting_set (ctx : Context) (task : Task) (key value : String) (ttl : Duration)
    : Attempting task (.cacheSet key value ttl) (CacheAside.set ctx task key value ttl) :=
  attempting_repeat (fun _ _ _ => rfl) fun _ reply _ => ⟨reply, rfl, trivial⟩

/-- To save a record attempts that save. -/
theorem attempting_save (ctx : Context) (record : Record)
    : Attempting ⟨"repository.save_log", record.requestId⟩ (.storeSave record)
        (Repository.save ctx record) :=
  attempting_repeat (fun _ _ _ => rfl) fun _ reply _ => ⟨reply, rfl, trivial⟩

/-- To find a record attempts that search. -/
theorem attempting_find (ctx : Context) (requestId userId : String)
    : Attempting ⟨"repository.find_by_request_and_user", requestId⟩ (.storeFind requestId userId)
        (Repository.find ctx requestId userId) :=
  attempting_repeat (fun _ _ _ => rfl) fun _ reply _ => ⟨reply, rfl, trivial⟩

/-- To list duplicates attempts that listing. -/
theorem attempting_duplicates (ctx : Context) (owner : Option String) (fingerprint : String)
    (exclude : Option String)
    : Attempting ⟨"repository.find_duplicates_by_hash", exclude.getD ""⟩
        (.storeDuplicates owner fingerprint exclude)
        (Repository.duplicates ctx owner fingerprint exclude) :=
  attempting_repeat (fun _ _ _ => rfl) fun _ reply _ => ⟨reply, rfl, trivial⟩

/-- To sum up the ledger attempts that summing. -/
theorem attempting_totals (ctx : Context)
    : Attempting ⟨"repository.aggregate_metrics", ""⟩ .storeTotals (Repository.totals ctx) :=
  attempting_repeat (fun _ _ _ => rfl) fun _ reply _ => ⟨reply, rfl, trivial⟩

/-- Attempts whose failure is handed on as it is. -/
theorem Attempting.bind {β : Type}
    {f : Except (OperationFailure ε) α → Action (Except (OperationFailure ε) β)}
    (attempting : Attempting task request flow) (made : MadeAs task.operation request)
    (handsOn : ∀ failure, f (.error failure) = .done (.error failure))
    (goesOn : ∀ value, Candid (f (.ok value)))
    : Candid (flow.bind f) := by
  constructor
  · refine fun last => (attempting.concludes last).bind ?_
    rintro last (failure | value) ⟨rfl, own⟩
    · rw [handsOn]
      have named := namesLast_of_made made failure.interruption?
      rwa [← own failure rfl] at named
    · exact (goesOn value).named _
  · refine attempting.honest.bind ?_
    rintro (failure | value) uncut
    · rw [handsOn]
      exact uncut_error_iff.mpr (uncut_error_iff.mp uncut)
    · exact (goesOn value).honest

/-- Attempts whose failure aborts a verification under the name of its stage. -/
theorem Attempting.stage {tag : String} {wrap : ε → StageFault}
    {f : Except (OperationFailure ε) α →
      Action (Except Verification.StageFailure VerificationOutcome)}
    (attempting : Attempting task request flow) (made : MadeAs tag request)
    (aborts : ∀ failure, f (.error failure) = Verification.abort (failure.mapFault tag wrap))
    (goesOn : ∀ value, Candid (f (.ok value)))
    : Candid (flow.bind f) := by
  constructor
  · refine fun last => (attempting.concludes last).bind ?_
    rintro last (failure | value) ⟨rfl, -⟩
    · rw [aborts]
      exact namesLast_of_made made _
    · exact (goesOn value).named _
  · refine attempting.honest.bind ?_
    rintro (failure | value) uncut
    · rw [aborts]
      refine uncut_error_iff.mpr fun kind cut => ?_
      exact uncut_error_iff.mp uncut kind (mapFault_interrupted_iff.mp cut)
    · exact (goesOn value).honest

end Attempting

namespace Verification

/-- The stage of the snapshot fails under its own name, by what came of caching it. -/
theorem cacheResult_candid (ctx : Context) (verdict : Verdict) (record : Record)
    : Candid (cacheResult ctx verdict record) :=
  (attempting_set ctx _ _ _ _).stage (.cacheResult record) (fun _ => rfl) fun _ =>
    candid_note (candid_ok _)

/-- The stage of the save fails under its own name; what it leaves to the next stage fails under
that stage's.
-/
theorem saveRecord_candid (ctx : Context) (verdict : Verdict) (record : Record)
    : Candid (saveRecord ctx verdict record) :=
  (attempting_save ctx record).stage (.save record) (fun _ => rfl) fun _ =>
    cacheResult_candid ctx verdict record

/-- The stage of the score fails under its own name, in each of the ways in which scoring can. -/
theorem scoreImage_candid (ctx : Context) (requestId userId : String) (image : Bytes)
    : Candid (scoreImage ctx requestId userId image) := by
  have made := MadeAs.score userId image ctx.deadline
  refine candid_now fun started => ⟨fun last reply => ?_, fun reply _ => ?_⟩
  · match reply with
    | .error kind => exact namesLast_of_made made _
    | .ok (.error fault) => exact namesLast_of_made made _
    | .ok (.ok verdict) => exact fun finished => (saveRecord_candid ctx verdict _).named _
  · match reply with
    | .error fault => exact uncut_error_iff.mpr nofun
    | .ok verdict => exact fun finished => (saveRecord_candid ctx verdict _).honest

/-- A verification is candid: it goes through its stages, each of which is. -/
theorem verify_candid (ctx : Context) (userId : String) (image : Bytes)
    : Candid (verify ctx userId image) := by
  refine candid_fresh fun requestId => ?_
  exact (attempting_set ctx _ _ _ _).stage (.mark requestId) (fun _ => rfl) fun _ =>
    scoreImage_candid ctx requestId userId image

/-- A lookup is candid. What came of reading the cache is not reported, since the store is asked
afterwards.
-/
theorem result_candid (ctx : Context) (userId requestId : String)
    : Candid (result ctx userId requestId) := by
  have found : Candid (Repository.find ctx requestId userId) :=
    (attempting_find ctx requestId userId).candid (.find requestId userId)
  refine candid_bind fun read => ?_
  cases read with
  | ok cached =>
      dsimp only
      split
      · exact candid_note found
      · split
        · exact candid_ok _
        · exact candid_note found
  | error failure =>
      dsimp only
      split
      · exact found
      · exact candid_note found

/-- A report is candid: it is a search and a listing, one after the other. -/
theorem duplicateReport_candid (scope : DuplicateScope) (ctx : Context) (userId requestId : String)
    : Candid (duplicateReport scope ctx userId requestId) := by
  refine (attempting_find ctx requestId userId).bind (.find requestId userId) (fun _ => rfl) ?_
  intro requested
  exact (attempting_duplicates ctx _ _ _).bind (.duplicates _ _ _) (fun _ => rfl) fun _ =>
    candid_ok _

/-- The metrics are candid: they are one sum. -/
theorem metrics_candid (ctx : Context) : Candid (metrics ctx) :=
  (attempting_totals ctx).bind .totals (fun _ => rfl) fun _ => candid_ok _

end Verification

namespace Service

variable (operation : Operation) (ctx : Context)

/-- Whatever comes of its calls, a failed operation names the last call that it made; by cases on
the operation.
-/
theorem flow_endsIn (last : Option Call)
    : (operation.flow ctx).EndsIn (fun last answer => NamesLast last answer.failure?) last := by
  cases operation with
  | verify userId image =>
      exact ((Verification.verify_candid ctx userId image).named last).bind fun _ _ named => named
  | result userId requestId =>
      exact ((Verification.result_candid ctx userId requestId).named last).bind fun _ _ named =>
        named
  | duplicateReport scope userId requestId =>
      exact ((Verification.duplicateReport_candid scope ctx userId requestId).named last).bind
        fun _ _ named => named
  | metrics => exact ((Verification.metrics_candid ctx).named last).bind fun _ _ named => named

/-- An operation all of whose calls are answered does not fail by an interruption. -/
theorem flow_yields
    : (operation.flow ctx).Yields (fun _ _ => True) fun answer => Uncut answer.failure? := by
  cases operation with
  | verify userId image =>
      exact (Verification.verify_candid ctx userId image).honest.bind fun _ uncut => uncut
  | result userId requestId =>
      exact (Verification.result_candid ctx userId requestId).honest.bind fun _ uncut => uncut
  | duplicateReport scope userId requestId =>
      exact (Verification.duplicateReport_candid scope ctx userId requestId).honest.bind
        fun _ uncut => uncut
  | metrics => exact (Verification.metrics_candid ctx).honest.bind fun _ uncut => uncut

/-- An operation that is interrupted reports the interruption. -/
theorem flow_obeys
    : (operation.flow ctx).Obeys ctx fun kind answer =>
        ∃ name, answer.failure? = some (name, some kind) := by
  cases operation with
  | verify userId image =>
      exact (Verification.verify_obeys ctx userId image).bind (fun _ => trivial)
        fun _ _ cut => cut.reported
  | result userId requestId =>
      refine (Verification.result_obeys ctx userId requestId).bind (fun _ => trivial) ?_
      rintro kind _ halted
      obtain rfl := halted
      exact ⟨_, rfl⟩
  | duplicateReport scope userId requestId =>
      exact (Verification.duplicateReport_obeys scope ctx userId requestId).bind
        (fun _ => trivial) fun _ _ cut => cut.reported
  | metrics =>
      exact (Verification.metrics_obeys ctx).bind (fun _ => trivial)
        fun _ _ cut => cut.reported

/-- An operation that has until a deadline is over by then, and reports that it was interrupted if
and only if it was not over before. What it reports goes by the name of its last call.
-/
theorem run_until {σ : Type} (env : Environment Call Reply σ) (world : World Call σ)
    {deadline : Instant} (ahead : world.clock ≤ deadline)
    : ∃ answer after made,
        (operation.flow (Context.background.deadlineAt deadline)).run env none world
          = (some answer, after)
        ∧ after.clock ≤ deadline
        ∧ ((∃ name, answer.failure? = some (name, some .deadlineExceeded))
          ↔ after.clock = deadline)
        ∧ after.calls = world.calls ++ made
        ∧ ∀ name why,
            answer.failure? = some (name, why)
            → ∃ call, made.getLast? = some call ∧ MadeAs name call.request := by
  obtain ⟨answer, after, ran, inTime, -, cut⟩ := (flow_obeys operation _).prompt env world deadline
    (rfl : (Context.background.deadlineAt deadline).interruptAt = some deadline)
  rw [Nat.max_eq_right ahead] at inTime cut
  obtain ⟨made, grown, named⟩ := (flow_endsIn operation _ none).run ran
  refine ⟨answer, after, made, ran, inTime, ⟨?_, ?_⟩, grown, fun name why failed => ?_⟩
  · rintro ⟨name, overdue⟩
    by_contra early
    have allowed : (Context.background.deadlineAt deadline).allows after.clock = true :=
      decide_eq_true (Nat.lt_of_le_of_ne inTime early)
    exact (flow_yields operation _).run_of_allows (flow_obeys operation _).heeds ran allowed name
      .deadlineExceeded overdue
  · exact fun late => cut (Nat.le_of_eq late.symm)
  · obtain ⟨request, last, madeAs⟩ := named name why failed
    obtain ⟨call, final, rfl⟩ := lastCall_eq_some last
    exact ⟨call, final, madeAs⟩

end Service

end ImageVerification
