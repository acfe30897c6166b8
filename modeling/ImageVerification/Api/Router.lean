import ImageVerification.Api
import ImageVerification.Binary.Word
import ImageVerification.Config
import ImageVerification.Flow.Run
import ImageVerification.Http.Origin
import ImageVerification.Http.RateLimit

/-! The layers around the endpoints of the API.

From the outside in: the rate limit, the time limit, the announced size of the body, the origins
that browsers may call from, and the endpoints by path and method.
-/

namespace ImageVerification

open Http

structure Router where
  api : Api
  origins : OriginPolicy
  /-- Requests are unlimited when there is no quota. -/
  quota : Option Quota
deriving DecidableEq

namespace Router

/-- Settings that no router can be made from. -/
inductive Fault where
  | bodyLimitTooLarge
  | requestTimeTooLong
  | wildcardOrigin
  | rateWindowTooLong
deriving DecidableEq

def quotaFields (config : Config) : List (String × FieldValue) :=
  [("per_sec", .natural config.ratePerSecond), ("burst", .natural config.rateBurst)]

/-- The quota of a configuration, with what is logged about it. -/
def quotaOf (config : Config) : Except Fault (Option Quota × Event) :=
  let quota : Quota := ⟨config.ratePerSecond * 1000000000, config.rateBurst⟩
  if !config.limitsRate then .ok (none, ⟨.warn, "Rate limiting disabled", []⟩)
  else if quota.period = 0 || quota.burst = 0 then
    .ok (none, ⟨.warn, "Rate limit settings rejected, limiter disabled", quotaFields config⟩)
  else if Quota.windowLimit ≤ quota.window then .error .rateWindowTooLong
  else .ok (some quota, ⟨.info, "Rate limiting enabled", quotaFields config⟩)

/-- Sizes and times have to fit 64 bits: the body limit in bytes, and the time of a request with
its slack in seconds. -/
def ofConfig (config : Config) (authority : Authority) (scope : DuplicateScope)
    (storeName cacheName : String) : Except Fault (Router × List Event) := do
  let bodyLimit := config.bodyLimitMegabytes * 1048576
  if Word.limit64 ≤ bodyLimit then throw .bodyLimitTooLarge
  let (origins, originEvent) ←
    match OriginPolicy.ofSettings config.allowedOrigins with
    | none => throw .wildcardOrigin
    | some found => pure found
  if Word.limit64 ≤ config.requestSeconds + 1 then throw .requestTimeTooLong
  let (quota, quotaEvent) ← quotaOf config
  let api : Api := {
    authority
    scope
    bodyLimit
    maxUploadBytes := config.maxUploadBytes
    requestTime := config.requestNanos
    storeName
    cacheName
  }
  return (⟨api, origins, quota⟩, [originEvent, quotaEvent])

/-- How much longer than its own time a request is waited for. -/
def slack : Nat := 1000000000

def dispatch (router : Router) (request : Request) : Action (Option Response) :=
  match Endpoint.ofPath? request.path with
  | none => return some (.empty 404)
  | some endpoint =>
      if endpoint.serves request.method then router.api.answer request endpoint
      else return some (.empty 405)

/-- Requests with the method OPTIONS are answered without looking at their path. -/
def withOrigins (router : Router) (request : Request) : Action (Option Response) := do
  if request.method = "OPTIONS" then return some (router.origins.preflight request)
  else
    let response ← router.dispatch request
    return response.map (router.origins.decorate request)

def withinLength (router : Router) (request : Request) : Action (Option Response) :=
  if (announcedLength? request.headers).any (router.api.bodyLimit < ·) then
    return some (.plain 413 "length limit exceeded")
  else router.withOrigins request

/-- Names the allowed methods where a path is served under others, and leaves out the body for a
HEAD request. -/
def finish (request : Request) (response : Response) : Response :=
  let response := if request.method = "HEAD" then { response with body := "" } else response
  match Endpoint.ofPath? request.path with
  | none => response
  | some endpoint =>
      if endpoint.serves request.method then response
      else response.withHeader "allow" endpoint.allowed

/-- The refusal of a request that the rate limit does not admit, and the limiter after it. -/
def refusal? (router : Router) (limiter : Limiter) (now : Instant) (request : Request)
    : Option Response × Limiter :=
  match router.quota, request.peer with
  | none, _ => (none, limiter)
  | some _, none => (some ⟨500, [], "Unable To Extract Key!"⟩, limiter)
  | some quota, some peer =>
      let (admitted, limiter) := limiter.arrive quota now peer.host
      (if admitted then none else some (.empty 429), limiter)

open Collaborator in
/-- Answers a request that has been admitted; what takes longer than the time limit is given up. -/
def respond {σ : Type} (router : Router) (env : Environment Call Reply σ) (request : Request)
    (world : World Call σ) : Option Response × World Call σ :=
  let limit := world.clock + router.api.requestTime + slack
  match (router.withinLength request).run env (some limit) world with
  | (none, world) => (some (finish request (.empty 408)), world)
  | (some response, world) => (response.map (finish request), world)

open Collaborator in
/-- Serves a request that arrives when the limiter's clock shows `now`. -/
def serve {σ : Type} (router : Router) (env : Environment Call Reply σ) (limiter : Limiter)
    (now : Instant) (request : Request) (world : World Call σ)
    : Option Response × Limiter × World Call σ :=
  match router.refusal? limiter now request with
  | (some response, limiter) => (some (finish request response), limiter, world)
  | (none, limiter) =>
      let (response, world) := router.respond env request world
      (response, limiter, world)

end Router

end ImageVerification
