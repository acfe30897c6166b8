import ImageVerification.Proofs.Api.Configured
import ImageVerification.Proofs.Api.Handlers

/-! Requests that take too long: the handlers of users' requests give up at the deadline of the
request, before the router itself does, and say what they were waiting for.
-/

namespace ImageVerification

open Http Collaborator

namespace Rejection

/-- A verification that took too long is answered as a timeout that names the stage. -/
theorem ofStage_of_overdue {failure : OperationFailure StageFault}
    (overdue : failure.cause = .interrupted .deadlineExceeded)
    : ofStage failure = (timeout (failure.operation ++ " did not finish in time"), []) := by
  simp only [ofStage, overdue, ofInterrupt]

/-- No other failure of a verification is answered with that status, by cases on its cause. -/
theorem ofStage_status_ne {failure : OperationFailure StageFault}
    (other : failure.cause ≠ .interrupted .deadlineExceeded)
    : (ofStage failure).1.status ≠ 408 := by
  unfold ofStage
  dsimp only
  split
  · next kind why =>
      cases kind with
      | cancelled => exact (by decide : 500 ≠ 408)
      | deadlineExceeded => exact absurd why other
  · exact (by decide : 409 ≠ 408)
  · split
    · exact (by decide : 503 ≠ 408)
    · exact (by decide : 500 ≠ 408)
  · exact (by decide : 500 ≠ 408)

/-- A lookup that took too long is answered as a timeout that names the operation. -/
theorem ofStore_of_overdue {failure : OperationFailure StoreFault}
    (overdue : failure.cause = .interrupted .deadlineExceeded)
    : ofStore failure = (timeout (failure.operation ++ " did not finish in time"), []) := by
  simp only [ofStore, overdue, ofInterrupt]

/-- No other failure of a lookup is answered with that status. -/
theorem ofStore_status_ne {failure : OperationFailure StoreFault}
    (other : failure.cause ≠ .interrupted .deadlineExceeded)
    : (ofStore failure).1.status ≠ 408 := by
  unfold ofStore
  split
  · exact (by decide : 404 ≠ 408)
  · next kind why =>
      cases kind with
      | cancelled => exact (by decide : 500 ≠ 408)
      | deadlineExceeded => exact absurd why other
  · exact (by decide : 500 ≠ 408)

end Rejection

namespace Api

/-- What a client is told of an operation that was interrupted by its deadline. -/
def timedOut (name : String) : Response :=
  .json 408
    (Json.Writer.object
      [("code", Json.quote "TIMEOUT"),
       ("error", Json.quote ("Request timeout: " ++ (name ++ " did not finish in time")))])

/-- A response that tells of a timeout exactly if that is what has failed. -/
inductive Reflects (failed : Option (String × Option Interrupt)) : Response → Prop where
  | overdue {name : String} (overdue : failed = some (name, some .deadlineExceeded))
      : Reflects failed (timedOut name)
  | otherwise {response : Response} (other : ∀ name, failed ≠ some (name, some .deadlineExceeded))
      (status : response.status ≠ 408)
      : Reflects failed response

/-- A response that reflects a failure has the status of a timeout exactly if the failure is one. -/
theorem Reflects.status_iff {failed : Option (String × Option Interrupt)} {response : Response}
    (reflects : Reflects failed response)
    : response.status = 408 ↔ ∃ name, failed = some (name, some .deadlineExceeded) := by
  cases reflects with
  | overdue overdue => exact iff_of_true rfl ⟨_, overdue⟩
  | otherwise other status => exact iff_of_false status fun ⟨name, cut⟩ => other name cut

/-- It is then the response that names what has timed out, and nothing besides. -/
theorem Reflects.eq_timedOut {failed : Option (String × Option Interrupt)} {response : Response}
    (reflects : Reflects failed response) {name : String}
    (overdue : failed = some (name, some .deadlineExceeded))
    : response = timedOut name := by
  cases reflects with
  | overdue same =>
      cases overdue.symm.trans same
      rfl
  | otherwise other status => exact absurd overdue (other name)

variable {ε α : Type} {failure : OperationFailure ε} {explained : Rejection.Explained}

/-- What is said of a failure that is explained as a timeout if and only if it is one. -/
theorem reflects_explained
    (overdue : failure.cause = .interrupted .deadlineExceeded
      → explained = (.timeout (failure.operation ++ " did not finish in time"), []))
    (other : failure.cause ≠ .interrupted .deadlineExceeded → explained.1.status ≠ 408)
    : Reflects (failure? (.error failure : Except _ α))
        (.json explained.1.status explained.1.body) := by
  by_cases late : failure.cause = .interrupted .deadlineExceeded
  · rw [overdue late]
    exact .overdue (failure?_error_iff.mpr ⟨rfl, late⟩)
  · exact .otherwise (fun name same => late (failure?_error_iff.mp same).2) (other late)

/-- What is told of a lookup reflects its failure. -/
theorem reflects_toldOfLookup (render : α → List Char) (outcome : Repository.Outcome α)
    : Reflects (failure? outcome) (toldOfLookup render outcome).1 := by
  cases outcome with
  | ok value => exact .otherwise nofun (by decide : 200 ≠ 408)
  | error failure =>
      exact reflects_explained Rejection.ofStore_of_overdue Rejection.ofStore_status_ne

/-- What is told of a verification reflects its failure. -/
theorem reflects_told (outcome : Except Verification.StageFailure VerificationOutcome)
    : Reflects (failure? outcome) (told outcome).1 := by
  cases outcome with
  | ok outcome => exact .otherwise nofun (by decide : 200 ≠ 408)
  | error failure =>
      exact reflects_explained Rejection.ofStage_of_overdue Rejection.ofStage_status_ne

/-- A client is told of a timeout exactly if the operation was interrupted by its deadline. -/
theorem reflects_relayed (answer : Service.Answer)
    : Reflects answer.failure? (relayed answer).1 := by
  cases answer with
  | verified outcome => exact reflects_told outcome
  | found outcome | reported outcome | summed outcome => exact reflects_toldOfLookup _ outcome

variable {σ : Type}

/-- An operation with a deadline reports that it was interrupted by it, under the name of what it
was doing.
-/
def Overruns (env : Environment Call Reply σ) (world : World Call σ) (deadline : Instant)
    (operation : Service.Operation) (name : String)
    : Prop :=
  ∃ answer,
    ((operation.flow (Context.background.deadlineAt deadline)).run env none world).1 = some answer
    ∧ answer.failure? = some (name, some .deadlineExceeded)

/-- The handler of an endpoint answers a user by the deadline of the request. It tells of a timeout
if and only if the operation that it has begun was interrupted by the deadline, which is to say that
the operation was not over before.
-/
structure HandledInTime (api : Api) (env : Environment Call Reply σ) (request : Request)
    (userId : String) (endpoint : Endpoint) (world : World Call σ) (response : Response)
    (after : World Call σ)
    : Prop where
  handled : (api.answer request endpoint).run env none world = (some (some response), after)
  inTime : after.clock ≤ world.clock + api.requestTime
  overruns_iff :
    response.status = 408
    ↔ ∃ operation name,
        api.Begins request userId endpoint operation
        ∧ Overruns env world (world.clock + api.requestTime) operation name
  late_iff :
    response.status = 408
    ↔ (∃ operation, api.Begins request userId endpoint operation)
      ∧ after.clock = world.clock + api.requestTime
  /-- A timeout is told under the name of the call that was the last to be made. -/
  named :
    ∀ operation name,
      api.Begins request userId endpoint operation
      → Overruns env world (world.clock + api.requestTime) operation name
      → response = timedOut name
        ∧ ∃ made call,
            after.calls = world.calls ++ made
            ∧ made.getLast? = some call
            ∧ MadeAs name call.request

variable {api : Api} {env : Environment Call Reply σ} {request : Request} {userId : String}
  {endpoint : Endpoint} {world : World Call σ}

/-- An operation overruns its time exactly if its run ends in a failure that says so. -/
theorem overruns_iff_of_run {operation : Service.Operation} {deadline : Instant} {name : String}
    {answer : Service.Answer} {after : World Call σ}
    (ran : (operation.flow (Context.background.deadlineAt deadline)).run env none world
      = (some answer, after))
    : Overruns env world deadline operation name
      ↔ answer.failure? = some (name, some .deadlineExceeded) := by
  rw [Overruns, ran]
  constructor
  · rintro ⟨_, ⟨⟩, overdue⟩
    exact overdue
  · exact fun overdue => ⟨answer, rfl, overdue⟩

/-- Whatever is asked for and whatever the collaborators do, users are answered in time. -/
theorem exists_handledInTime (personal : endpoint.Personal)
    (authentic : api.authority.authenticate (env.wall world.clock).seconds.toNat
      (request.header? "authorization") = .ok userId)
    (representable : world.clock + api.requestTime < instantLimit)
    : ∃ response after, api.HandledInTime env request userId endpoint world response after := by
  obtain ⟨handler, same, handles⟩ := exists_handler api request personal
  -- The token is checked without a call, so the run is that of the handler alone.
  have run (limit : Option Instant)
      : (api.answer request endpoint).run env limit world
        = (handler userId).run env limit world := by
    rw [same, run_forUser authentic]
  have handles := handles userId
  generalize handler userId = flow at run handles
  cases handles with
  -- No operation is begun, so there is none that could overrun.
  | refused unbegun quiet other =>
      have ran := run none
      rw [(quiet _).run env none world rfl] at ran
      refine ⟨_, _, ran, Nat.le_add_right _ _, ?_, ?_, ?_⟩
      · exact iff_of_false other fun ⟨operation, _, begins, _⟩ => unbegun operation begins
      · exact iff_of_false other fun ⟨⟨operation, begins⟩, _⟩ => unbegun operation begins
      · exact fun operation _ begins => absurd begins (unbegun operation)
  | @begun operation answer begins relays =>
      obtain ⟨told, after, made, ran, inTime, overdue_iff, grown, names⟩ :=
        Service.run_until operation env world (Nat.le_add_right world.clock api.requestTime)
      have answered := run none
      rw [run_underContext_of_lt answer env none world representable, relays,
        Flow.run_bind_of_quiet relayed (fun _ => quiet_relay) env none _ world, ran] at answered
      have reflects := reflects_relayed told
      -- The operation under its limit tells of an overrun by its failure, and only so.
      have overruns_iff (name : String)
          : Overruns env world (world.clock + api.requestTime) operation name
            ↔ told.failure? = some (name, some .deadlineExceeded) :=
        overruns_iff_of_run ran
      refine ⟨_, _, answered, inTime, ?_, ?_, ?_⟩
      · refine reflects.status_iff.trans ⟨?_, ?_⟩
        · rintro ⟨name, overdue⟩
          exact ⟨operation, name, begins, (overruns_iff name).mpr overdue⟩
        · rintro ⟨_, name, begins', overruns⟩
          obtain rfl := begins.unique begins'
          exact ⟨name, (overruns_iff name).mp overruns⟩
      · refine reflects.status_iff.trans (overdue_iff.trans ?_)
        exact (and_iff_right ⟨operation, begins⟩).symm
      · intro _ name begins' overruns
        obtain rfl := begins.unique begins'
        have overdue := (overruns_iff name).mp overruns
        obtain ⟨call, last, madeAs⟩ := names name _ overdue
        exact ⟨reflects.eq_timedOut overdue, made, call, grown, last, madeAs⟩

end Api

namespace Router

variable {config : Config} {authority : Authority} {scope : DuplicateScope}
  {storeName cacheName : String} {router : Router} {events : List Event} {endpoint : Endpoint}
  {request : Request} {userId : String} {σ : Type}

/-- The handlers of users' requests are in time: what the router serves is what the handler has
answered by the deadline of the request, and not that the router has given up.
-/
theorem handlers_in_time
    (made : ofConfig config authority scope storeName cacheName = .ok (router, events))
    (unlimited : config.limitsRate = false)
    (leads : Endpoint.Leads request.path endpoint) (personal : endpoint.Personal)
    (served : endpoint.serves request.method = true)
    (within : ∀ length ∈ announcedLength? request.headers,
      length ≤ config.bodyLimitMegabytes * 1048576)
    (env : Environment Call Reply σ) (world : World Call σ)
    (authentic : authority.authenticate (env.wall world.clock).seconds.toNat
      (request.header? "authorization") = .ok userId)
    (representable : world.clock + config.requestNanos < Api.instantLimit)
    (limiter : Limiter) (now : Instant)
    : ∃ response after,
        (apiOf config authority scope storeName cacheName).HandledInTime env request userId endpoint
          world response after
        ∧ router.serve env limiter now request world
          = (some (finish request (router.origins.decorate request response)), limiter, after) := by
  have configured := configured_of_ofConfig made
  have admitted := configured.refusal?_eq unlimited limiter now request
  have reaches : router.Reaches limiter now request endpoint := by
    refine ⟨by rw [admitted], ?_, served⟩
    rw [configured.api]
    exact within
  have handled
      : ∃ response after,
          (apiOf config authority scope storeName cacheName).HandledInTime env request userId
            endpoint world response after :=
    Api.exists_handledInTime personal authentic representable
  rw [← configured.api] at handled ⊢
  obtain ⟨response, after, inTime⟩ := handled
  refine ⟨response, after, inTime, ?_⟩
  have limit : after.clock < world.clock + router.api.requestTime + slack :=
    Nat.lt_of_le_of_lt inTime.inTime (Nat.lt_add_of_pos_right (by decide))
  have ran := (Flow.run_within inTime.handled).2 _ limit
  rw [serve_of_admitted reaches.admitted, respond, withinLength_of_reaches leads reaches,
    Flow.run_bind, ran, admitted]
  rfl

/-- Alice asks for a result with her token. -/
def alicesLookup : Request :=
  { alicesUpload with method := "GET", target := "/result/r", body := [] }

/-- Without any answer from the cache, alice is told after thirty seconds that her record could not
be found in time.
-/
theorem alicesLookup_timedOut
    : ∃ router events after,
        ofConfig .standard (.make "secret" none) .owner InMemory.backendName InMemory.backendName
          = .ok (router, events)
        ∧ router.serve Verification.unanswering .empty 0 alicesLookup (.start .empty)
          = (some (router.origins.decorate alicesLookup
              (Api.timedOut "repository.find_by_request_and_user")), .empty, after)
        ∧ after.clock = 30000000000 := by
  have settled
      : OriginPolicy.ofSettings Config.standard.allowedOrigins = some (.anyOrigin, _) := rfl
  obtain ⟨quotaEvent, made⟩ := ofConfig_of_unlimited settled (by decide) (by decide) rfl
    (.make "secret" none) .owner InMemory.backendName InMemory.backendName
  have leads : Endpoint.Leads alicesLookup.path (.result ['r']) := .result ⟨nofun, by decide⟩
  have unannounced : announcedLength? alicesLookup.headers = none := by decide +kernel
  have authentic
      : (Authority.make "secret" none).authenticate 0 (alicesLookup.header? "authorization")
        = .ok "alice" := by
    decide +kernel
  obtain ⟨response, after, inTime, served⟩ := handlers_in_time made rfl leads (.result _) rfl
    (by rw [unannounced]; nofun) Verification.unanswering (.start .empty) authentic (by decide)
    .empty 0
  have decoded : Percent.decode? ['r'] = some "r" := by decide +kernel
  have trimmed : Text.trimText "r" = "r" := by decide +kernel
  have begins
      : (apiOf .standard (.make "secret" none) .owner InMemory.backendName
          InMemory.backendName).Begins alicesLookup "alice" (.result ['r'])
          (.result "alice" (Text.trimText "r")) :=
    .result decoded (by rw [trimmed]; decide)
  rw [trimmed] at begins
  -- The cache never answers, so the lookup overruns by computation.
  have overruns
      : Api.Overruns Verification.unanswering (.start .empty) 30000000000 (.result "alice" "r")
          "repository.find_by_request_and_user" :=
    ⟨_, rfl, rfl⟩
  obtain ⟨rfl, -⟩ := inTime.named _ _ begins overruns
  have late := (inTime.late_iff.mp rfl).2
  exact ⟨_, _, after, made, served, late⟩

end Router

end ImageVerification
