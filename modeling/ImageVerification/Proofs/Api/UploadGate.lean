import ImageVerification.Proofs.Api.Acceptance
import ImageVerification.Proofs.Api.Unauthenticated
import ImageVerification.Proofs.Flow.Running

/-! What becomes of the uploads of users: those that are accepted are passed on to be verified, once
and as they are, and the others are refused before anything is begun for them.
-/

namespace ImageVerification

open Http Collaborator Verification

namespace Flow

variable {Call : Type} {Reply : Call → Type} {σ α β : Type}

/-- What a run comes to that is followed by something quiet, told from its result. -/
def followedBy (told : α → β × List Event) : Option α × World Call σ → Option β × World Call σ
  | (some result, after) =>
      (some (told result).1, { after with events := after.events ++ (told result).2 })
  | (none, after) => (none, after)

/-- What is quiet at all times after a flow only adds to its log. -/
theorem run_bind_of_quiet {f : α → Flow Call Reply β} (told : α → β × List Event)
    (quiet : ∀ reading result, Quiet reading (f result) (told result).1 (told result).2)
    (env : Environment Call Reply σ) (limit : Option Instant) (flow : Flow Call Reply α)
    (world : World Call σ)
    : (flow.bind f).run env limit world = followedBy told (flow.run env limit world) := by
  rw [run_bind]
  rcases flow.run env limit world with ⟨outcome, after⟩
  cases outcome with
  | none => rfl
  | some result => exact (quiet _ result).run env limit after rfl

/-- Names that have been drawn stay drawn. -/
theorem named_le_run (env : Environment Call Reply σ) (limit : Option Instant)
    (flow : Flow Call Reply α) (world : World Call σ)
    : world.named ≤ (flow.run env limit world).2.named := by
  induction flow generalizing world with
  | done result => exact Nat.le_refl _
  | call ctx request next ih =>
      -- A call draws no name, however it ends.
      have kept : (runCall env limit ctx request world).2.named = world.named := by
        unfold runCall
        split
        · rfl
        · dsimp only
          split
          · split <;> rfl
          · rfl
          · rfl
      simp only [run]
      rw [← kept]
      split
      · next called => exact called ▸ ih _ _
      · next called => rw [called]
  | sleep ctx span next ih =>
      simp only [run]
      split
      · next reply clock _ => exact ih reply { world with clock }
      · exact Nat.le_refl _
  | now next ih => exact ih _ world
  | fresh next ih => exact Nat.le_of_succ_le (ih _ { world with named := world.named + 1 })
  | log event next ih => exact ih { world with events := world.events ++ [event] }

end Flow

namespace Api

variable {api : Api} {reading : Reading} {request : Request} {userId : String}

/-- What a user is told of a verification, and what is logged about it. -/
def told : Except StageFailure VerificationOutcome → Response × List Event
  | .error failure =>
      let explained := Rejection.ofStage failure
      (.json explained.1.status explained.1.body, explained.2 ++ [explained.1.event])
  | .ok outcome => (.json 200 (Answer.verification outcome), [])

/-- To log some events, nobody is asked anything; by induction on them. -/
theorem quiet_noteAll (events : List Event) : Flow.Quiet reading (noteAll events) () events := by
  induction events with
  | nil => exact .done ()
  | cons event events ih => exact .log ih

/-- To explain a rejection, nobody is asked anything, and what the operators should know is logged
before the rejection itself.
-/
theorem quiet_explain (explained : Rejection.Explained)
    : Flow.Quiet reading (explain explained)
        (.json explained.1.status explained.1.body) (explained.2 ++ [explained.1.event]) :=
  (quiet_noteAll explained.2).bind (quiet_reject explained.1)

/-- To verify an image for a request is to verify it and to tell what has come of it. -/
theorem run_verifyImage {σ : Type} (env : Environment Call Reply σ) (limit : Option Instant)
    (image : Bytes) (ctx : Context) (world : World Call σ)
    : (verifyImage userId image ctx).run env limit world
      = Flow.followedBy told ((Verification.verify ctx userId image).run env limit world) := by
  refine Flow.run_bind_of_quiet told ?_ env limit _ world
  intro reading outcome
  cases outcome with
  | error failure => exact quiet_explain _
  | ok outcome => exact .done _

/-- A user's request to have an image verified comes down to this. -/
theorem run_verify_of_accepted {σ : Type} {boundary image : Bytes}
    (authentic : api.authority.authenticate reading.wall.seconds.toNat
      (request.header? "authorization") = .ok userId)
    (announced : Multipart.boundary? (request.header? "content-type") = some boundary)
    (accepted : api.upload request boundary = .ok image)
    (env : Environment Call Reply σ) (limit : Option Instant) (world : World Call σ)
    (read : reading = ⟨world.clock, env.wall world.clock⟩)
    : (api.verify request).run env limit world
      = (api.underContext (verifyImage userId image)).run env limit world := by
  subst read
  unfold verify forUser
  rw [Flow.bind_eq_bind, Flow.run_bind]
  have known
      : (api.authenticate request).run env limit world = (some (.ok userId), world) := by
    simp only [authenticate, Flow.readClocks, Flow.bind_eq_bind, Flow.bind, Flow.run, authentic]
    rfl
  simp only [known, announced, accepted]

/-- A user whose upload is not accepted is told so. -/
theorem quiet_verify_of_rejected {boundary : Bytes} {rejection : Rejection}
    (authentic : api.authority.authenticate reading.wall.seconds.toNat
      (request.header? "authorization") = .ok userId)
    (announced : Multipart.boundary? (request.header? "content-type") = some boundary)
    (rejected : api.upload request boundary = .error rejection)
    : Flow.Quiet reading (api.verify request)
        (some (.json rejection.status rejection.body)) [rejection.event] := by
  have known : Flow.Quiet reading (api.authenticate request) (.ok userId) [] :=
    .now (authentic ▸ .done _)
  refine known.bind ?_
  simp only [announced, rejected]
  exact (quiet_reject rejection).bind (.done _)

/-- With a deadline that can be told, the answer is run under a context with that deadline. -/
theorem run_underContext_of_lt {σ : Type} (answer : Context → Action Response)
    (env : Environment Call Reply σ) (limit : Option Instant) (world : World Call σ)
    (representable : world.clock + api.requestTime < instantLimit)
    : (api.underContext answer).run env limit world
      = Flow.followedBy (fun response => (some response, []))
          ((answer (Context.background.deadlineAt (world.clock + api.requestTime))).run env limit
            world) := by
  have ctx
      : api.requestContext? world.clock
        = some (Context.background.deadlineAt (world.clock + api.requestTime)) :=
    if_pos representable
  simp only [underContext, Flow.readClocks, Flow.bind_eq_bind, Flow.bind, Flow.run, ctx]
  exact Flow.run_bind_of_quiet (fun response => (some response, [])) (fun _ _ => .done _) env
    limit _ world

/-- With a deadline beyond the last instant there is no context, hence no answer, and nothing is
done.
-/
theorem run_underContext_of_le {σ : Type} (answer : Context → Action Response)
    (env : Environment Call Reply σ) (limit : Option Instant) (world : World Call σ)
    (beyond : instantLimit ≤ world.clock + api.requestTime)
    : (api.underContext answer).run env limit world = (some none, world) := by
  have noCtx : api.requestContext? world.clock = none := if_neg (Nat.not_lt_of_le beyond)
  simp only [underContext, Flow.readClocks, Flow.bind_eq_bind, Flow.bind, Flow.run, noCtx]
  rfl

end Api

namespace Router

open Upload

variable {router : Router} {limiter : Limiter} {now : Instant} {request : Request}
  {reading : Reading} {userId : String} {fields : List Multipart.Field} {σ : Type}

/-- A user uploads a form: the request is let through and authenticated, it is a form by its content
type, and its body is within the limit and can be read as fields.
-/
structure Uploads (router : Router) (limiter : Limiter) (now : Instant) (request : Request)
    (reading : Reading) (userId : String) (fields : List Multipart.Field)
    : Prop where
  leads : Endpoint.Leads request.path .verify
  reaches : router.Reaches limiter now request .verify
  authentic :
    router.api.authority.authenticate reading.wall.seconds.toNat (request.header? "authorization")
    = .ok userId
  within : request.body.length ≤ router.api.readLimit request
  formed : ∃ boundary,
    Multipart.boundary? (request.header? "content-type") = some boundary
    ∧ Multipart.parse boundary request.body = .ok fields

/-- How a verification is answered; one that takes too long is given up. -/
def answered (router : Router) (request : Request)
    : Option (Except StageFailure VerificationOutcome) × World Call σ →
      Option Response × World Call σ
  | (some outcome, after) =>
      (some (router.origins.decorate request (Api.told outcome).1),
        { after with events := after.events ++ (Api.told outcome).2 })
  | (none, after) => (some (.empty 408), after)

/-- To serve a request is to verify an image for a user, once and within the time that the request
has, and to answer with what comes of that.
-/
def Verifies (router : Router) (env : Environment Call Reply σ) (limiter : Limiter)
    (now : Instant) (request : Request) (world : World Call σ) (userId : String) (image : Bytes)
    : Prop :=
  let deadline := world.clock + router.api.requestTime
  let ran := (verify (Context.background.deadlineAt deadline) userId image).run env
    (some (deadline + slack)) world
  router.serve env limiter now request world
  = ((router.answered request ran).1, (router.refusal? limiter now request).2,
      (router.answered request ran).2)

/-- What a request that is let through is answered: what its endpoint says, if it does so in time.
-/
def passedOn (router : Router) (request : Request)
    : Option (Option Response) × World Call σ → Option Response × World Call σ
  | (some response, after) => (response.map (router.origins.decorate request), after)
  | (none, after) => (some (.empty 408), after)

/-- An upload that reaches the endpoint is answered as the endpoint says, within the router's limit.
Witness: all other layers let it pass, and a post has a body to send back.
-/
theorem serve_upload (leads : Endpoint.Leads request.path .verify)
    (reaches : router.Reaches limiter now request .verify) (env : Environment Call Reply σ)
    (world : World Call σ)
    : let ran := (router.api.verify request).run env
        (some (world.clock + router.api.requestTime + slack)) world
      router.serve env limiter now request world
      = ((router.passedOn request ran).1, (router.refusal? limiter now request).2,
          (router.passedOn request ran).2) := by
  have post : request.method ≠ "HEAD" := by
    intro head
    have served := reaches.served
    rw [head] at served
    cases served
  have whole : finish request = id := by
    funext response
    rw [finish_of_serves leads reaches.served, if_neg post, id]
  -- What dresses the response makes no call, so the run is that of the endpoint.
  have decorated := Flow.run_bind_of_quiet
    (fun response : Option Response => (response.map (router.origins.decorate request), []))
    (fun _ _ => .done _) env (some (world.clock + router.api.requestTime + slack))
    (router.api.verify request) world
  dsimp only
  rw [serve_of_admitted reaches.admitted, respond, withinLength_of_reaches leads reaches]
  dsimp only [Api.answer]
  rw [decorated, whole]
  rcases (router.api.verify request).run env
    (some (world.clock + router.api.requestTime + slack)) world with ⟨outcome, after⟩
  cases outcome with
  | none => rfl
  | some response => simp [Flow.followedBy, passedOn]

variable {env : Environment Call Reply σ} {world : World Call σ} {image : Bytes}

/-- Verifying an image draws a name. -/
theorem Verifies.named_lt (verifies : router.Verifies env limiter now request world userId image)
    : world.named < (router.serve env limiter now request world).2.2.named := by
  let ctx := Context.background.deadlineAt (world.clock + router.api.requestTime)
  let limit := some (world.clock + router.api.requestTime + slack)
  have drawn : world.named < ((verify ctx userId image).run env limit world).2.named :=
    Flow.named_le_run env limit _ { world with named := world.named + 1 }
  have kept (ran : Option (Except StageFailure VerificationOutcome) × World Call σ)
      : (router.answered request ran).2.named = ran.2.named := by
    obtain ⟨outcome, after⟩ := ran
    cases outcome <;> rfl
  rw [verifies, kept]
  exact drawn

/-- The fields of a form that a user uploads can be read, its body being within the limit. -/
theorem Uploads.readForm (uploads : router.Uploads limiter now request reading userId fields)
    : ∃ boundary,
        Multipart.boundary? (request.header? "content-type") = some boundary
        ∧ router.api.readForm request boundary = .ok fields := by
  obtain ⟨boundary, announced, parsed⟩ := uploads.formed
  refine ⟨boundary, announced, ?_⟩
  rw [Api.readForm, if_neg (Nat.not_lt_of_le uploads.within)]
  exact parsed

/-- What is uploaded in an accepted form is verified. -/
theorem Uploads.verifies (uploads : router.Uploads limiter now request reading userId fields)
    (read : reading = ⟨world.clock, env.wall world.clock⟩)
    (accepts : Accepts router.api.maxUploadBytes fields image)
    (representable : world.clock + router.api.requestTime < Api.instantLimit)
    : router.Verifies env limiter now request world userId image := by
  obtain ⟨boundary, announced, formed⟩ := uploads.readForm
  have served := serve_upload uploads.leads uploads.reaches env world
  dsimp only at served
  rw [Api.run_verify_of_accepted uploads.authentic announced (accepts.upload_eq formed) env _ world
      read,
    Api.run_underContext_of_lt _ env _ world representable, Api.run_verifyImage] at served
  unfold Verifies
  rw [served]
  dsimp only
  rcases (verify (Context.background.deadlineAt (world.clock + router.api.requestTime)) userId
    image).run env (some (world.clock + router.api.requestTime + slack)) world
    with ⟨outcome, after⟩
  cases outcome with
  | none => rfl
  | some outcome => simp [Flow.followedBy, passedOn, answered]

/-- An accepted form for which there is no deadline gets no answer. -/
theorem Uploads.unanswered (uploads : router.Uploads limiter now request reading userId fields)
    (read : reading = ⟨world.clock, env.wall world.clock⟩)
    (accepts : Accepts router.api.maxUploadBytes fields image)
    (beyond : Api.instantLimit ≤ world.clock + router.api.requestTime)
    : router.serve env limiter now request world
      = (none, (router.refusal? limiter now request).2, world) := by
  obtain ⟨boundary, announced, formed⟩ := uploads.readForm
  have served := serve_upload uploads.leads uploads.reaches env world
  dsimp only at served
  rw [Api.run_verify_of_accepted uploads.authentic announced (accepts.upload_eq formed) env _ world
      read,
    Api.run_underContext_of_le _ env _ world beyond] at served
  exact served

/-- A form that is not accepted is refused, and nothing is done for it. -/
theorem Uploads.refused (uploads : router.Uploads limiter now request reading userId fields)
    (read : reading = ⟨world.clock, env.wall world.clock⟩) {status : Nat} {code : String}
    (refuses : Refuses router.api.maxUploadBytes fields status code)
    : ∃ rejection : Rejection,
        rejection.status = status
        ∧ rejection.code = code
        ∧ router.serve env limiter now request world
          = (some
                (router.origins.decorate request
                  (.json status
                    (Json.Writer.object
                      [("code", Json.quote code), ("error", Json.quote rejection.text)]))),
              (router.refusal? limiter now request).2,
              { world with events := world.events ++ [rejection.event] }) := by
  obtain ⟨boundary, announced, formed⟩ := uploads.readForm
  obtain ⟨rejection, rfl, rfl, rejected⟩ := refuses.upload_eq formed
  have quiet := Api.quiet_verify_of_rejected uploads.authentic announced rejected
  have served := serve_upload uploads.leads uploads.reaches env world
  rw [quiet.run env _ world read] at served
  exact ⟨rejection, rfl, rfl, served⟩

/-- A form that a user uploads is either accepted or refused. What it uploads is verified if and
only if it is accepted and there is a deadline for the request; it is then verified once, and for
that user. Otherwise nothing is done for it but to log why it is refused.
-/
theorem uploads_gated (uploads : router.Uploads limiter now request reading userId fields)
    (env : Environment Call Reply σ) (world : World Call σ)
    (read : reading = ⟨world.clock, env.wall world.clock⟩)
    : ((∃ image, Accepts router.api.maxUploadBytes fields image)
          ↔ ¬ ∃ status code, Refuses router.api.maxUploadBytes fields status code)
      ∧ ((∃ image, router.Verifies env limiter now request world userId image)
          ↔ world.clock + router.api.requestTime < Api.instantLimit
            ∧ ∃ image, Accepts router.api.maxUploadBytes fields image)
      ∧ (∀ image, Accepts router.api.maxUploadBytes fields image →
          (world.clock + router.api.requestTime < Api.instantLimit →
            router.Verifies env limiter now request world userId image)
          ∧ (Api.instantLimit ≤ world.clock + router.api.requestTime →
            router.serve env limiter now request world
            = (none, (router.refusal? limiter now request).2, world)))
      ∧ ∀ status code, Refuses router.api.maxUploadBytes fields status code →
          ∃ rejection : Rejection,
            rejection.status = status
            ∧ rejection.code = code
            ∧ router.serve env limiter now request world
              = (some
                    (router.origins.decorate request
                      (.json status
                        (Json.Writer.object
                          [("code", Json.quote code), ("error", Json.quote rejection.text)]))),
                  (router.refusal? limiter now request).2,
                  { world with events := world.events ++ [rejection.event] }) := by
  have either : (∃ image, Accepts router.api.maxUploadBytes fields image)
      ∨ ∃ status code, Refuses router.api.maxUploadBytes fields status code := by
    obtain ⟨boundary, -, formed⟩ := uploads.readForm
    have examined := upload_examined formed
    generalize router.api.upload request boundary = result at examined
    cases examined with
    | accepted accepts => exact .inl ⟨_, accepts⟩
    | refused refuses => exact .inr ⟨_, _, refuses⟩
  refine ⟨⟨?_, either.resolve_right⟩, ⟨?_, ?_⟩, ?_, fun status code refuses => ?_⟩
  · rintro ⟨image, accepts⟩ ⟨status, code, refuses⟩
    exact accepts.not_refuses refuses
  · rintro ⟨image, verifies⟩
    have drawn := verifies.named_lt
    rcases either with ⟨image, accepts⟩ | ⟨status, code, refuses⟩
    · refine ⟨?_, image, accepts⟩
      by_contra beyond
      rw [uploads.unanswered read accepts (Nat.le_of_not_lt beyond)] at drawn
      exact Nat.lt_irrefl _ drawn
    · obtain ⟨rejection, -, -, served⟩ := uploads.refused read refuses
      rw [served] at drawn
      exact absurd drawn (Nat.lt_irrefl _)
  · rintro ⟨representable, image, accepts⟩
    exact ⟨image, uploads.verifies read accepts representable⟩
  · intro image accepts
    exact ⟨uploads.verifies read accepts, uploads.unanswered read accepts⟩
  · exact uploads.refused read refuses

/-- Alice uploads a text and a picture of one byte under one name. -/
def alicesUpload : Request where
  method := "POST"
  target := "/verify"
  headers :=
    [("authorization",
        Encoding.Utf8.encode
          ("Bearer eyJ0eXAiOiJKV1QiLCJhbGciOiJIUzI1NiJ9.eyJzdWIiOiJhbGljZSJ9."
            ++ "_-1VvDqAIodGRJsQJd7YusmdWTq8RK-CqblGKnKbGmo")),
     ("content-type", Multipart.announce "cut")]
  body :=
    Multipart.write "cut" true
      [⟨some "image", none, some "text/plain", [104, 105]⟩,
       ⟨some "image", none, some "IMAGE/PNG; q=1", [7]⟩]
  peer := none

/-- What alice uploads, field by field. -/
def alicesFields : List Multipart.Field :=
  [⟨some "image", some "text/plain", [104, 105]⟩, ⟨some "image", some "image/png; q=1", [7]⟩]

/-- A router under which requests have so much time. -/
def waiting (requestTime : Nat) : Router :=
  { unlimited with api := { unlimited.api with requestTime } }

/-- Alice uploads two fields, whatever time requests have. -/
theorem alicesUpload_uploads (requestTime : Nat)
    : (waiting requestTime).Uploads .empty 0 alicesUpload ⟨0, .epoch⟩ "alice" alicesFields := by
  have authentic
      : (Authority.make "secret" none).authenticate 0 (alicesUpload.header? "authorization")
        = .ok "alice" := by
    decide +kernel
  have within : alicesUpload.body.length ≤ unlimited.api.readLimit alicesUpload := by
    decide +kernel
  exact ⟨.verify, ⟨rfl, nofun, rfl⟩, authentic, within, Encoding.Utf8.encode "cut",
    by decide +kernel, by decide +kernel⟩

/-- The last of them is an image of one byte, and its content type names one. -/
theorem alicesUpload_accepted : Accepts 1048576 alicesFields [7] := by
  have ofType : IsImageType "image/png; q=1" := essence_mem_iff.mp (by decide +kernel)
  have last : IsLastImage alicesFields ⟨some "image", some "image/png; q=1", [7]⟩ :=
    ⟨rfl, [_], [], rfl, nofun⟩
  exact .image last (by decide) (by decide) ⟨_, rfl, ofType⟩

/-- The picture is verified and not the text. If requests had time beyond the last instant, alice
would get no answer at all.
-/
theorem alicesUpload_gated
    : (waiting 1000000000).Verifies
          (InMemory.environment (.ok ⟨true, .zero, ""⟩) (fun _ => .epoch) fun _ => "r") .empty 0
          alicesUpload (.start .empty) "alice" [7]
      ∧ (waiting Api.instantLimit).serve
            (InMemory.environment (.ok ⟨true, .zero, ""⟩) (fun _ => .epoch) fun _ => "r") .empty 0
            alicesUpload (.start .empty)
          = (none, .empty, .start .empty) := by
  have inTime := uploads_gated (alicesUpload_uploads 1000000000)
    (InMemory.environment (.ok ⟨true, .zero, ""⟩) (fun _ => .epoch) fun _ => "r")
    (.start .empty) rfl
  have tooLong := uploads_gated (alicesUpload_uploads Api.instantLimit)
    (InMemory.environment (.ok ⟨true, .zero, ""⟩) (fun _ => .epoch) fun _ => "r")
    (.start .empty) rfl
  obtain ⟨-, -, verified, -⟩ := inTime
  obtain ⟨-, -, unanswered, -⟩ := tooLong
  exact ⟨(verified [7] alicesUpload_accepted).1 (by decide),
    (unanswered [7] alicesUpload_accepted).2 (by decide)⟩

end Router

end ImageVerification
