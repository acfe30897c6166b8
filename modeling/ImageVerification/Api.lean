import ImageVerification.Api.Answer
import ImageVerification.Api.Document
import ImageVerification.Api.Endpoint
import ImageVerification.Api.Upload
import ImageVerification.Auth.Bearer
import ImageVerification.Binary.Word
import ImageVerification.Http.Multipart
import ImageVerification.Http.Percent

/-! What each endpoint of the API does with a request.

The sender is authenticated before anything else of a request is looked at. Only requests that pass
every check reach the collaborators, under a context that ends with the time a request has.
-/

namespace ImageVerification

structure Api where
  authority : Authority
  scope : DuplicateScope
  /-- The most bytes of a request body that are read. -/
  bodyLimit : Nat
  maxUploadBytes : Nat
  /-- The time that a request has, in nanoseconds. -/
  requestTime : Nat
  storeName : String
  cacheName : String
deriving DecidableEq

namespace Api

open Http

/-- Instants have as many whole seconds as fit 63 bits. -/
def instantLimit : Instant := Word.limit63 * 1000000000

/-- The context of a request that begins at an instant; there is none when its deadline would lie
beyond the last instant. -/
def requestContext? (api : Api) (now : Instant) : Option Context :=
  let deadline := now + api.requestTime
  if deadline < instantLimit then some (Context.background.deadlineAt deadline) else none

def reject (rejection : Rejection) : Action Response := do
  Flow.note rejection.event
  return .json rejection.status rejection.body

def noteAll : List Event → Action Unit
  | [] => return ()
  | event :: events => do
      Flow.note event
      noteAll events

/-- Logs what the operators should know of a rejection, and rejects. -/
def explain (explained : Rejection.Explained) : Action Response := do
  noteAll explained.2
  reject explained.1

/-- The user who sent a request, at the time of the wall clock. -/
def authenticate (api : Api) (request : Request) : Action (Except Rejection String) := do
  let clocks ← Flow.readClocks
  return api.authority.authenticate clocks.wall.seconds.toNat (request.header? "authorization")

/-- Answers under the context of a request. Without a context there is no answer. -/
def underContext (api : Api) (answer : Context → Action Response) : Action (Option Response) := do
  let clocks ← Flow.readClocks
  match api.requestContext? clocks.instant with
  | none => return none
  | some ctx =>
      let response ← answer ctx
      return some response

/-- Answers for the user who sent a request, if one did. -/
def forUser (api : Api) (request : Request) (answer : String → Action (Option Response))
    : Action (Option Response) := do
  match ← api.authenticate request with
  | .error rejection =>
      let response ← reject rejection
      return some response
  | .ok userId => answer userId

/-- The last image field of a form. -/
def imageField? (fields : List Multipart.Field) : Option Multipart.Field :=
  fields.reverse.find? fun field => field.name == some "image"

/-- The most bytes that are read of the body of a request: no more than it announces. -/
def readLimit (api : Api) (request : Request) : Nat :=
  match announcedLength? request.headers with
  | some announced => min api.bodyLimit announced
  | none => api.bodyLimit

/-- A body beyond its limit cannot be read. -/
def readForm (api : Api) (request : Request) (boundary : Bytes)
    : Except Multipart.Fault (List Multipart.Field) :=
  if api.readLimit request < request.body.length then .error .unreadableBody
  else Multipart.parse boundary request.body

/-- The image that a form uploads, if it is acceptable; its size is checked before its type. -/
def upload (api : Api) (request : Request) (boundary : Bytes) : Except Rejection Bytes :=
  match api.readForm request boundary with
  | .error fault => .error (.badRequest ("Failed to parse multipart: " ++ fault.text))
  | .ok fields =>
      match imageField? fields with
      | none => .error (.badRequest "image file is required")
      | some field => do
          Upload.checkSize field.data.length api.maxUploadBytes
          Upload.checkType field.contentType
          return field.data

def noBoundary : Response :=
  .plain 400 "Invalid `boundary` for `multipart/form-data` request"

def verifyImage (userId : String) (image : Bytes) (ctx : Context) : Action Response := do
  match ← Verification.verify ctx userId image with
  | .error failure => explain (Rejection.ofStage failure)
  | .ok outcome => return .json 200 (Answer.verification outcome)

def verify (api : Api) (request : Request) : Action (Option Response) :=
  api.forUser request fun userId =>
    match Multipart.boundary? (request.header? "content-type") with
    | none => return some noBoundary
    | some boundary =>
        match api.upload request boundary with
        | .error rejection => do
            let response ← reject rejection
            return some response
        | .ok image => api.underContext (verifyImage userId image)

def undecodableId : Response := .plain 400 "Invalid URL: Invalid UTF-8 in `id`"

/-- Answers for the user who sent a request and the request id in its path. -/
def forRequestId (api : Api) (request : Request) (segment : List Char)
    (answer : String → String → Context → Action Response) : Action (Option Response) :=
  api.forUser request fun userId =>
    match Percent.decode? segment with
    | none => return some undecodableId
    | some text =>
        let requestId := Text.trimText text
        if requestId.isEmpty then do
          let response ← reject (.badRequest "id is required")
          return some response
        else api.underContext (answer userId requestId)

/-- Answers with what a lookup in the store found. -/
def found {α : Type} (render : α → List Char) : Repository.Outcome α → Action Response
  | .error failure => explain (Rejection.ofStore failure)
  | .ok value => return .json 200 (render value)

def result (api : Api) (request : Request) (segment : List Char) : Action (Option Response) :=
  api.forRequestId request segment fun userId requestId ctx => do
    let outcome ← Verification.result ctx userId requestId
    found Answer.result outcome

def duplicates (api : Api) (request : Request) (segment : List Char) : Action (Option Response) :=
  api.forRequestId request segment fun userId requestId ctx => do
    let outcome ← Verification.duplicateReport api.scope ctx userId requestId
    found Answer.duplicates outcome

def metrics (api : Api) (request : Request) : Action (Option Response) :=
  api.forUser request fun _ =>
    api.underContext fun ctx => do
      let outcome ← Verification.metrics ctx
      found Answer.metrics outcome

/-- The time that the store has to answer a probe. -/
def probeTime : Nat := 2000000000

/-- Whether the store answers a probe; a failure is logged. -/
def probe (complaint : String) : Action Bool := do
  let clocks ← Flow.readClocks
  match ← Repository.ping (Context.background.deadlineAt (clocks.instant + probeTime)) with
  | .ok () => return true
  | .error failure =>
      Flow.note ⟨.warn, complaint, [("error", .shown failure.text)]⟩
      return false

def health (api : Api) : Action Response := do
  let reachable ← probe "Health check: store unreachable"
  return .json 200 (Answer.health reachable api.storeName api.cacheName)

def ready : Action Response := do
  let reachable ← probe "Readiness check failed"
  return if reachable then .json 200 Answer.ready else .json 503 Answer.notReady

/-- Answers a request to an endpoint. A request whose deadline would lie beyond the last instant is
not answered. -/
def answer (api : Api) (request : Request) : Endpoint → Action (Option Response)
  | .verify => api.verify request
  | .result id => api.result request id
  | .duplicates id => api.duplicates request id
  | .metrics => api.metrics request
  | .health => some <$> api.health
  | .ready => some <$> ready
  | .document => return some (.json 200 Document.render)

end Api

end ImageVerification
