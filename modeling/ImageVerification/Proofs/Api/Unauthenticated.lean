import ImageVerification.Api.Router
import ImageVerification.InMemory
import ImageVerification.Proofs.Api.Routing
import ImageVerification.Proofs.Flow.Quiet

/-! What becomes of requests whose sender is not authenticated.

On the endpoints that answer only to users, nothing is done for them: the flow that answers them is
quiet, so that neither the collaborators nor the answer depend on anything else.
-/

namespace ImageVerification

open Http

namespace Endpoint

/-- Endpoints that answer only to users. -/
inductive Personal : Endpoint → Prop where
  | verify : Personal .verify
  | result (id : List Char) : Personal (.result id)
  | duplicates (id : List Char) : Personal (.duplicates id)
  | metrics : Personal .metrics

end Endpoint

namespace Authority

/-- The codes with which senders are refused. -/
def codes : List String :=
  ["AUTH_MISSING_TOKEN", "AUTH_INVALID_TOKEN", "AUTH_TOKEN_EXPIRED", "AUTH_INVALID_AUDIENCE",
   "AUTH_MISSING_SUBJECT"]

/-- A rejection that refuses a sender. -/
def IsRefusal (rejection : Rejection) : Prop :=
  ∃ code ∈ codes, ∃ detail, rejection = .unauthorized code detail

theorem isRefusal_unauthorized {code : String} (known : code ∈ codes) (detail : String)
    : IsRefusal (unauthorized code detail) :=
  ⟨code, known, detail, rfl⟩

/-- A header without a token is refused with a code of the authority's, in each of the ways in which
it may lack one.
-/
theorem bearerToken_error {value : Option Bytes} {rejection : Rejection}
    (failed : bearerToken value = .error rejection)
    : IsRefusal rejection := by
  unfold bearerToken at failed
  dsimp only at failed
  repeat' split at failed
  all_goals cases failed
  all_goals exact isRefusal_unauthorized (by decide) _

/-- So is a token without a subject, in each of the ways in which it may be unfit. -/
theorem subject_error {authority : Authority} {now : Nat} {token : List Char}
    {rejection : Rejection} (failed : authority.subject now token = .error rejection)
    : IsRefusal rejection := by
  unfold subject at failed
  split at failed
  · next fault _ =>
      cases failed
      cases fault <;> exact isRefusal_unauthorized (by decide) _
  · repeat' split at failed
    all_goals cases failed
    all_goals exact isRefusal_unauthorized (by decide) _

/-- Hence whoever is not authenticated is refused with such a code. -/
theorem authenticate_error {authority : Authority} {now : Nat} {value : Option Bytes}
    {rejection : Rejection} (failed : authority.authenticate now value = .error rejection)
    : IsRefusal rejection := by
  unfold authenticate at failed
  cases read : bearerToken value with
  | error refusal =>
      rw [read] at failed
      cases failed
      exact bearerToken_error read
  | ok token =>
      rw [read] at failed
      exact subject_error failed

end Authority

namespace Api

/-- The sender of a request is not authenticated. -/
def RefusesSender (api : Api) (reading : Reading) (request : Request) (rejection : Rejection)
    : Prop :=
  api.authority.authenticate reading.wall.seconds.toNat (request.header? "authorization")
  = .error rejection

variable {api : Api} {reading : Reading} {request : Request} {rejection : Rejection}

/-- To reject a request, nobody is asked anything, and one line is logged. -/
theorem quiet_reject (rejection : Rejection)
    : Flow.Quiet reading (reject rejection) (.json rejection.status rejection.body)
        [rejection.event] :=
  .log (.done _)

/-- Nothing that is meant for users is begun for a sender who is not authenticated. -/
theorem quiet_forUser
    (refused : api.RefusesSender reading request rejection)
    (answer : String → Action (Option Response))
    : Flow.Quiet reading (api.forUser request answer)
        (some (.json rejection.status rejection.body)) [rejection.event] := by
  have unknown : Flow.Quiet reading (api.authenticate request) (.error rejection) [] :=
    .now (refused ▸ .done _)
  exact unknown.bind ((quiet_reject rejection).bind (.done _))

/-- At an endpoint that is meant for users, a sender who is not authenticated is rejected, whatever
else the request says.
-/
theorem quiet_answer {endpoint : Endpoint} (personal : endpoint.Personal)
    (refused : api.RefusesSender reading request rejection)
    : Flow.Quiet reading (api.answer request endpoint)
        (some (.json rejection.status rejection.body)) [rejection.event] := by
  cases personal with
  | verify | result | duplicates | metrics => exact quiet_forUser refused _

end Api

namespace Router

open Collaborator

variable {router : Router} {reading : Reading} {request : Request} {rejection : Rejection}
  {endpoint : Endpoint} {limiter : Limiter} {now : Instant} {σ : Type}

/-- A request gets past everything that stands in front of an endpoint. -/
structure Reaches (router : Router) (limiter : Limiter) (now : Instant) (request : Request)
    (endpoint : Endpoint) : Prop where
  admitted : (router.refusal? limiter now request).1 = none
  withinLimit : ∀ length ∈ announcedLength? request.headers, length ≤ router.api.bodyLimit
  served : endpoint.serves request.method = true

/-- A body that is announced within the limit, or not announced, is let through. -/
theorem beyondLimit_eq_false
    (within : ∀ length ∈ announcedLength? request.headers, length ≤ router.api.bodyLimit)
    : (announcedLength? request.headers).any (router.api.bodyLimit < ·) = false := by
  rw [← Bool.not_eq_true, Option.any_eq_true]
  rintro ⟨length, announced, beyond⟩
  exact Nat.not_le_of_lt (of_decide_eq_true beyond) (within length announced)

/-- No endpoint serves preflight requests itself. -/
theorem ne_options_of_serves (served : endpoint.serves request.method = true)
    : request.method ≠ "OPTIONS" := by
  intro options
  rw [options] at served
  cases endpoint <;> cases served

/-- A request is handed to the endpoint that its path leads to, if that serves its method. -/
theorem dispatch_of_leads (leads : Endpoint.Leads request.path endpoint)
    : router.dispatch request
      = if endpoint.serves request.method then router.api.answer request endpoint
        else return some (.empty 405) := by
  rw [dispatch, Endpoint.ofPath?_eq_some_iff.mpr leads]

/-- A request that reaches an endpoint is answered by it. -/
theorem withinLength_of_reaches (leads : Endpoint.Leads request.path endpoint)
    (reaches : router.Reaches limiter now request endpoint)
    : router.withinLength request
      = (router.api.answer request endpoint).bind fun response =>
          .done (response.map (router.origins.decorate request)) := by
  rw [withinLength, beyondLimit_eq_false reaches.withinLimit, if_neg Bool.false_ne_true,
    withOrigins, if_neg (ne_options_of_serves reaches.served), dispatch_of_leads leads,
    if_pos reaches.served]
  rfl

/-- An endpoint that a request does reach refuses the sender. -/
theorem quiet_of_reaches (leads : Endpoint.Leads request.path endpoint)
    (personal : endpoint.Personal)
    (refused : router.api.RefusesSender reading request rejection)
    (reaches : router.Reaches limiter now request endpoint)
    : Flow.Quiet reading (router.withinLength request)
        (some (router.origins.decorate request (.json rejection.status rejection.body)))
        [rejection.event] := by
  rw [withinLength_of_reaches leads reaches]
  exact (Api.quiet_answer personal refused).bind (.done _)

/-- Whatever stops a request in front of an endpoint is quiet as well. -/
theorem exists_quiet (leads : Endpoint.Leads request.path endpoint)
    (personal : endpoint.Personal)
    (refused : router.api.RefusesSender reading request rejection)
    : ∃ response events,
        Flow.Quiet reading (router.withinLength request) (some response) events := by
  unfold withinLength
  split
  · -- The announced body is too long.
    exact ⟨_, _, .done _⟩
  unfold withOrigins
  split
  · -- A preflight request is answered in place of the endpoint.
    exact ⟨_, _, .done _⟩
  rw [dispatch_of_leads leads]
  split
  · exact ⟨_, _, (Api.quiet_answer personal refused).bind (.done _)⟩
  · -- The endpoint does not serve the method.
    exact ⟨_, _, .done _⟩

/-- A request that the limiter stops is answered by it alone. -/
theorem serve_of_refusal {response : Response}
    (stopped : (router.refusal? limiter now request).1 = some response)
    (env : Environment Call Reply σ) (world : World Call σ)
    : router.serve env limiter now request world
      = (some (finish request response), (router.refusal? limiter now request).2, world) := by
  unfold serve
  generalize router.refusal? limiter now request = outcome at stopped ⊢
  obtain ⟨refusal, after⟩ := outcome
  obtain rfl : refusal = some response := stopped
  rfl

/-- Any other request is answered by the layers behind it. -/
theorem serve_of_admitted (admitted : (router.refusal? limiter now request).1 = none)
    (env : Environment Call Reply σ) (world : World Call σ)
    : router.serve env limiter now request world
      = ((router.respond env request world).1, (router.refusal? limiter now request).2,
          (router.respond env request world).2) := by
  unfold serve
  generalize router.refusal? limiter now request = outcome at admitted ⊢
  obtain ⟨refusal, after⟩ := outcome
  obtain rfl : refusal = none := admitted
  rfl

/-- A request that is let in and for which nobody is asked anything is answered as the layers say,
and leaves nothing behind but its lines in the log.
-/
theorem serve_of_quiet {response : Response} {events : List Event}
    (admitted : (router.refusal? limiter now request).1 = none)
    (quiet : Flow.Quiet reading (router.withinLength request) (some response) events)
    (env : Environment Call Reply σ) (world : World Call σ)
    (read : reading = ⟨world.clock, env.wall world.clock⟩)
    : router.serve env limiter now request world
      = (some (finish request response), (router.refusal? limiter now request).2,
          { world with events := world.events ++ events }) := by
  simp only [serve_of_admitted admitted, respond, quiet.run env _ world read, Option.map_some]

/-- Where an endpoint serves a method, a response is finished by leaving out the body if only the
head is asked for.
-/
theorem finish_of_serves (leads : Endpoint.Leads request.path endpoint)
    (served : endpoint.serves request.method = true) (response : Response)
    : finish request response
      = if request.method = "HEAD" then { response with body := "" } else response := by
  rw [finish, Endpoint.ofPath?_eq_some_iff.mpr leads]
  exact if_pos served

/-- A request for something that only users may see has one answer as long as its sender is not
authenticated, whatever the collaborators are and whatever they hold, and it leaves them alone. If
the request reaches the endpoint, the sender is refused and the refusal is logged; as always, the
body is left out for a HEAD request.
-/
theorem unauthenticated_refused (leads : Endpoint.Leads request.path endpoint)
    (personal : endpoint.Personal)
    (refused : router.api.RefusesSender reading request rejection)
    (limiter : Limiter) (now : Instant)
    : ∃ response after events,
        (∀ {σ : Type} (env : Environment Call Reply σ) (world : World Call σ),
            reading = ⟨world.clock, env.wall world.clock⟩ →
            router.serve env limiter now request world
              = (some response, after, { world with events := world.events ++ events }))
        ∧ (router.Reaches limiter now request endpoint →
            ∃ code ∈ Authority.codes, ∃ detail,
              rejection = .unauthorized code detail
              ∧ events = [rejection.event]
              ∧ response.status = 401
              ∧ response.body
                = if request.method = "HEAD" then ""
                  else
                    String.ofList
                      (Json.Writer.object
                        [("code", Json.quote code), ("error", Json.quote detail)])) := by
  cases stopped : (router.refusal? limiter now request).1 with
  | some response =>
      -- The rate limit stops the request before any flow is run.
      refine ⟨finish request response, (router.refusal? limiter now request).2, [], ?_, ?_⟩
      · intro σ env world _
        rw [serve_of_refusal stopped, List.append_nil]
      · intro reaches
        rw [reaches.admitted] at stopped
        cases stopped
  | none =>
      by_cases reaches : router.Reaches limiter now request endpoint
      · have quiet := quiet_of_reaches leads personal refused reaches
        refine ⟨_, _, _, serve_of_quiet stopped quiet, fun _ => ?_⟩
        obtain ⟨code, known, detail, rfl⟩ := Authority.authenticate_error refused
        refine ⟨code, known, detail, rfl, rfl, ?_, ?_⟩
        all_goals
          rw [finish_of_serves leads reaches.served]
          split <;> rfl
      · obtain ⟨response, events, quiet⟩ := exists_quiet leads personal refused
        exact ⟨_, _, _, serve_of_quiet stopped quiet, fun reached => absurd reached reaches⟩

/-- A router that does not limit the rate of requests. -/
def unlimited : Router where
  api := {
    authority := .make "secret" none
    scope := .owner
    bodyLimit := 1048576
    maxUploadBytes := 1048576
    requestTime := 1000000000
    storeName := InMemory.backendName
    cacheName := InMemory.backendName
  }
  origins := .anyOrigin
  quota := none

/-- A request for a result, without a token. -/
def anonymousLookup : Request := ⟨"GET", "/result/r", [], [], none⟩

/-- Without a token, nobody learns whether there is a result. -/
theorem anonymousLookup_refused
    : ∃ response after events,
        response.status = 401
        ∧ response.body
          = String.ofList
              (Rejection.body (.unauthorized "AUTH_MISSING_TOKEN" "Missing Authorization header"))
        ∧ ∀ state : InMemory,
            unlimited.serve
                (InMemory.environment (.ok ⟨true, .zero, ""⟩) (fun _ => .epoch) fun _ => "r")
                .empty 0 anonymousLookup (.start state)
              = (some response, after, { World.start state with events }) := by
  have leads : Endpoint.Leads anonymousLookup.path (.result ['r']) := .result ⟨nofun, by decide⟩
  have refused
      : unlimited.api.RefusesSender ⟨0, .epoch⟩ anonymousLookup
          (.unauthorized "AUTH_MISSING_TOKEN" "Missing Authorization header") :=
    rfl
  obtain ⟨response, after, events, served, reached⟩ :=
    unauthenticated_refused leads (.result _) refused .empty 0
  obtain ⟨code, -, detail, same, -, status, body⟩ := reached ⟨rfl, nofun, rfl⟩
  obtain ⟨rfl, rfl⟩ := Rejection.unauthorized.inj same
  exact ⟨response, after, events, status, body, fun state => served _ _ rfl⟩

end Router

end ImageVerification
