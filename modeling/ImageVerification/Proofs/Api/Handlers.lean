import ImageVerification.Proofs.Api.UploadGate
import ImageVerification.Proofs.Service.Failures

/-! What a user's request to an endpoint comes down to: an operation of the service that is begun
once every check is passed, and what the client is told of its answer.
-/

namespace ImageVerification.Api

open Http Collaborator Service

/-- The operation that a user asks for with a request that passes every check. -/
inductive Begins (api : Api) (request : Request) (userId : String)
    : Endpoint → Operation → Prop where
  | verify {boundary image : Bytes}
      (announced : Multipart.boundary? (request.header? "content-type") = some boundary)
      (accepted : api.upload request boundary = .ok image)
      : Begins api request userId .verify (.verify userId image)
  | result {segment : List Char} {text : String} (decoded : Percent.decode? segment = some text)
      (named : ¬ (Text.trimText text).isEmpty = true)
      : Begins api request userId (.result segment) (.result userId (Text.trimText text))
  | duplicates {segment : List Char} {text : String} (decoded : Percent.decode? segment = some text)
      (named : ¬ (Text.trimText text).isEmpty = true)
      : Begins api request userId (.duplicates segment)
          (.duplicateReport api.scope userId (Text.trimText text))
  | metrics : Begins api request userId .metrics .metrics

/-- Tells the client what an operation has answered. -/
def relay : Service.Answer → Action Response
  | .verified (.error failure) => explain (Rejection.ofStage failure)
  | .verified (.ok outcome) => return .json 200 (Answer.verification outcome)
  | .found outcome => found Answer.result outcome
  | .reported outcome => found Answer.duplicates outcome
  | .summed outcome => found Answer.metrics outcome

/-- What a client is told of a lookup, and what is logged about it. -/
def toldOfLookup {α : Type} (render : α → List Char) : Repository.Outcome α → Response × List Event
  | .error failure =>
      let explained := Rejection.ofStore failure
      (.json explained.1.status explained.1.body, explained.2 ++ [explained.1.event])
  | .ok value => (.json 200 (render value), [])

def relayed : Service.Answer → Response × List Event
  | .verified outcome => told outcome
  | .found outcome => toldOfLookup Answer.result outcome
  | .reported outcome => toldOfLookup Answer.duplicates outcome
  | .summed outcome => toldOfLookup Answer.metrics outcome

variable {api : Api} {reading : Reading} {request : Request} {userId : String}

/-- A request begins one operation at most. -/
theorem Begins.unique {operation other : Operation} {endpoint : Endpoint}
    (begins : api.Begins request userId endpoint operation)
    (begins' : api.Begins request userId endpoint other)
    : operation = other := by
  cases begins with
  | verify announced accepted =>
      obtain ⟨announced', accepted'⟩ := begins'
      cases announced.symm.trans announced'
      cases accepted.symm.trans accepted'
      rfl
  | result decoded =>
      cases begins' with
      | result decoded' =>
          cases decoded.symm.trans decoded'
          rfl
  | duplicates decoded =>
      cases begins' with
      | duplicates decoded' =>
          cases decoded.symm.trans decoded'
          rfl
  | metrics =>
      cases begins'
      rfl

/-- To tell what a lookup has come to, nobody is asked anything. -/
theorem quiet_found {α : Type} (render : α → List Char) (outcome : Repository.Outcome α)
    : Flow.Quiet reading (found render outcome) (toldOfLookup render outcome).1
        (toldOfLookup render outcome).2 := by
  cases outcome with
  | error failure => exact quiet_explain _
  | ok value => exact .done _

/-- To relay the answer of the service, nobody is asked anything either; by cases on the operation
that it answers.
-/
theorem quiet_relay (answer : Service.Answer)
    : Flow.Quiet reading (relay answer) (relayed answer).1 (relayed answer).2 := by
  match answer with
  | .verified (.error failure) => exact quiet_explain _
  | .verified (.ok outcome) => exact .done _
  | .found outcome => exact quiet_found _ outcome
  | .reported outcome => exact quiet_found _ outcome
  | .summed outcome => exact quiet_found _ outcome

/-- What is done for a user: an operation is begun and its answer told, or the request is refused at
once.
-/
inductive Handles (api : Api) (request : Request) (userId : String) (endpoint : Endpoint)
    : Action (Option Response) → Prop where
  | begun {operation : Operation} {answer : Context → Action Response}
      (begins : api.Begins request userId endpoint operation)
      (relays : ∀ ctx, answer ctx = (operation.flow ctx).bind relay)
      : Handles api request userId endpoint (api.underContext answer)
  | refused {flow : Action (Option Response)} {response : Response} {events : List Event}
      (unbegun : ∀ operation, ¬ api.Begins request userId endpoint operation)
      (quiet : ∀ reading, Flow.Quiet reading flow (some response) events)
      (other : response.status ≠ 408)
      : Handles api request userId endpoint flow

/-- To verify an image for a request is to run the service's operation and to relay its answer. -/
theorem verifyImage_eq (userId : String) (image : Bytes) (ctx : Context)
    : verifyImage userId image ctx = ((Operation.verify userId image).flow ctx).bind relay := by
  rw [Operation.flow, Flow.bind_assoc]
  refine congrArg (Flow.bind _) (funext fun outcome => ?_)
  cases outcome <;> rfl

/-- To look up a result for a request is to run the service's operation and to relay its answer. -/
theorem result_eq (userId requestId : String) (ctx : Context)
    : ((Verification.result ctx userId requestId).bind (found Answer.result))
      = ((Operation.result userId requestId).flow ctx).bind relay := by
  rw [Operation.flow, Flow.bind_assoc]
  rfl

/-- So it is for a report of duplicates; the router renders it as the relay does. -/
theorem duplicates_eq (scope : DuplicateScope) (userId requestId : String) (ctx : Context)
    : ((Verification.duplicateReport scope ctx userId requestId).bind (found Answer.duplicates))
      = ((Operation.duplicateReport scope userId requestId).flow ctx).bind relay := by
  rw [Operation.flow, Flow.bind_assoc]
  rfl

/-- So it is for the metrics. -/
theorem metrics_eq (ctx : Context)
    : ((Verification.metrics ctx).bind (found Answer.metrics))
      = (Operation.metrics.flow ctx).bind relay := by
  rw [Operation.flow, Flow.bind_assoc]
  rfl

/-- To reject a request, nobody is asked anything; the rejection is logged. -/
theorem quiet_rejected (rejection : Rejection)
    : Flow.Quiet reading ((reject rejection).bind fun response => .done (some response))
        (some (.json rejection.status rejection.body)) [rejection.event] :=
  (quiet_reject rejection).bind (.done _)

/-- An upload is not refused for its time. -/
theorem upload_error {boundary : Bytes} {rejection : Rejection}
    (refused : api.upload request boundary = .error rejection)
    : rejection.status ≠ 408 := by
  cases formed : api.readForm request boundary with
  | error fault =>
      rw [upload, formed] at refused
      cases refused
      exact (by decide : 400 ≠ 408)
  | ok fields =>
      have examined := Upload.upload_examined formed
      rw [refused] at examined
      cases examined with
      | refused refuses =>
          generalize rejection.status = status, rejection.code = code at refuses ⊢
          cases refuses <;> decide

/-- What is done for a user and the id in a path: an operation is begun if the id is fine. -/
theorem forRequestId_handles {segment : List Char} {endpoint : Endpoint}
    {answer : String → String → Context → Action Response} {operation : String → String → Operation}
    (begins_iff : ∀ {userId begun},
      api.Begins request userId endpoint begun
      ↔ ∃ text,
          Percent.decode? segment = some text
          ∧ ¬ (Text.trimText text).isEmpty = true
          ∧ begun = operation userId (Text.trimText text))
    (relays : ∀ userId requestId ctx,
      answer userId requestId ctx = ((operation userId requestId).flow ctx).bind relay)
    : ∃ handler,
        api.forRequestId request segment answer = api.forUser request handler
        ∧ ∀ userId, api.Handles request userId endpoint (handler userId) := by
  refine ⟨_, rfl, fun userId => ?_⟩
  cases decoded : Percent.decode? segment with
  | none =>
      refine .refused (fun begun begins => ?_) (fun _ => .done _) (by decide : 400 ≠ 408)
      obtain ⟨text, same, -⟩ := begins_iff.mp begins
      cases decoded.symm.trans same
  | some text =>
      dsimp only
      split
      · next blank =>
          refine .refused (fun begun begins => ?_)
            (fun _ => quiet_rejected (.badRequest "id is required")) (by decide : 400 ≠ 408)
          obtain ⟨_, same, named, -⟩ := begins_iff.mp begins
          cases decoded.symm.trans same
          exact named blank
      · next named =>
          exact .begun (begins_iff.mpr ⟨text, decoded, named, rfl⟩) (relays userId _)

/-- Every endpoint that is meant for users has a handler. -/
theorem exists_handler (api : Api) (request : Request) {endpoint : Endpoint}
    (personal : endpoint.Personal)
    : ∃ handler,
        api.answer request endpoint = api.forUser request handler
        ∧ ∀ userId, api.Handles request userId endpoint (handler userId) := by
  cases personal with
  | verify =>
      refine ⟨_, rfl, fun userId => ?_⟩
      -- The form is refused before anything is begun: for want of a boundary, or for what is in it.
      cases announced : Multipart.boundary? (request.header? "content-type") with
      | none =>
          refine .refused ?_ (fun _ => .done _) (by decide : 400 ≠ 408)
          rintro _ ⟨other, -⟩
          cases announced.symm.trans other
      | some boundary =>
          dsimp only
          cases examined : api.upload request boundary with
          | error rejection =>
              refine .refused ?_ (fun _ => quiet_rejected rejection) (upload_error examined)
              rintro _ ⟨same, accepted⟩
              cases announced.symm.trans same
              cases examined.symm.trans accepted
          | ok image => exact .begun (.verify announced examined) (verifyImage_eq _ image)
  | result segment =>
      unfold answer result
      -- The segment of a path names a request, or is refused for the same reasons at both
      -- endpoints.
      refine forRequestId_handles (fun {_ _} => ⟨?_, ?_⟩) fun _ _ _ => result_eq ..
      · rintro ⟨⟩
        exact ⟨_, ‹_›, ‹_›, rfl⟩
      · rintro ⟨text, decoded, named, rfl⟩
        exact .result decoded named
  | duplicates segment =>
      unfold answer duplicates
      refine forRequestId_handles (fun {_ _} => ⟨?_, ?_⟩) fun _ _ _ => duplicates_eq ..
      · rintro ⟨⟩
        exact ⟨_, ‹_›, ‹_›, rfl⟩
      · rintro ⟨text, decoded, named, rfl⟩
        exact .duplicates decoded named
  | metrics =>
      unfold answer metrics
      exact ⟨_, rfl, fun _ => .begun .metrics metrics_eq⟩

variable {σ : Type} {env : Environment Call Reply σ} {world : World Call σ}

/-- For an authenticated sender, only the endpoint's own answer is run. Witness: the token is
checked without a call, and without a line in the log.
-/
theorem run_forUser
    (authentic : api.authority.authenticate (env.wall world.clock).seconds.toNat
      (request.header? "authorization") = .ok userId)
    (handler : String → Action (Option Response)) (limit : Option Instant)
    : (api.forUser request handler).run env limit world
      = (handler userId).run env limit world := by
  have known : Flow.Quiet ⟨world.clock, env.wall world.clock⟩ (api.authenticate request)
      (.ok userId) [] :=
    .now (authentic ▸ .done _)
  unfold forUser
  rw [Flow.bind_eq_bind, Flow.run_bind, known.run env limit world rfl, List.append_nil]

end ImageVerification.Api
