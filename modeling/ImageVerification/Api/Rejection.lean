import ImageVerification.Json.Writer
import ImageVerification.Verification

/-! Rejections: how requests to the API are refused, and what a client may know of a failure. -/

namespace ImageVerification

inductive Rejection where
  | badRequest (detail : String)
  | unauthorized (code detail : String)
  | notFound (detail : String)
  | conflict (detail : String)
  | payloadTooLarge (detail : String)
  | unsupportedMediaType (detail : String)
  | timeout (detail : String)
  | internal (detail : String)
  | unavailable (detail : String)
deriving DecidableEq

namespace Rejection

def status : Rejection → Nat
  | badRequest _ => 400
  | unauthorized .. => 401
  | notFound _ => 404
  | conflict _ => 409
  | payloadTooLarge _ => 413
  | unsupportedMediaType _ => 415
  | timeout _ => 408
  | internal _ => 500
  | unavailable _ => 503

def code : Rejection → String
  | badRequest _ => "INVALID_INPUT"
  | unauthorized code _ => code
  | notFound _ => "NOT_FOUND"
  | conflict _ => "DUPLICATE_IMAGE"
  | payloadTooLarge _ => "PAYLOAD_TOO_LARGE"
  | unsupportedMediaType _ => "UNSUPPORTED_MEDIA_TYPE"
  | timeout _ => "TIMEOUT"
  | internal _ => "INTERNAL_ERROR"
  | unavailable _ => "SERVICE_UNAVAILABLE"

/-- The text of a rejection; that of an unauthorized request stands alone. -/
def text : Rejection → String
  | badRequest detail => "Bad request: " ++ detail
  | unauthorized _ detail => detail
  | notFound detail => "Not found: " ++ detail
  | conflict detail => "Conflict: " ++ detail
  | payloadTooLarge detail => "Payload too large: " ++ detail
  | unsupportedMediaType detail => "Unsupported media type: " ++ detail
  | timeout detail => "Request timeout: " ++ detail
  | internal detail => "Internal error: " ++ detail
  | unavailable detail => "Service unavailable: " ++ detail

def category : Rejection → String
  | badRequest _ => "bad_request"
  | unauthorized .. => "auth_error"
  | notFound _ => "not_found"
  | conflict _ => "conflict"
  | payloadTooLarge _ => "invalid_upload"
  | unsupportedMediaType _ => "invalid_upload"
  | timeout _ => "timeout"
  | internal _ => "internal"
  | unavailable _ => "service_unavailable"

def statusText : Rejection → String
  | badRequest _ => "400 Bad Request"
  | unauthorized .. => "401 Unauthorized"
  | notFound _ => "404 Not Found"
  | conflict _ => "409 Conflict"
  | payloadTooLarge _ => "413 Payload Too Large"
  | unsupportedMediaType _ => "415 Unsupported Media Type"
  | timeout _ => "408 Request Timeout"
  | internal _ => "500 Internal Server Error"
  | unavailable _ => "503 Service Unavailable"

/-- Logged when a rejection is sent; only internal errors count as failures of the service. -/
def event (rejection : Rejection) : Event :=
  let fields :=
    [("status", .shown rejection.statusText), ("category", .text rejection.category),
     ("code", .text rejection.code), ("error", .shown rejection.text)]
  match rejection with
  | internal _ => ⟨.error, "Request failed", fields⟩
  | _ => ⟨.warn, "Request rejected", fields⟩

/-- The JSON body of a rejection. -/
def body (rejection : Rejection) : List Char :=
  Json.Writer.object
    [("code", Json.quote rejection.code), ("error", Json.quote rejection.text)]

def ofInterrupt (operation : String) : Interrupt → Rejection
  | .deadlineExceeded => timeout (operation ++ " did not finish in time")
  | .cancelled => internal (operation ++ " was cancelled")

/-- A rejection together with what is logged in its place for the operators. -/
abbrev Explained := Rejection × List Event

def ofStage (failure : OperationFailure StageFault) : Explained :=
  let explain (message : String) : List Event :=
    [⟨.error, message,
      [("stage", .text failure.operation), ("error", .shown failure.text)]⟩]
  match failure.cause with
  | .interrupted kind => (ofInterrupt failure.operation kind, [])
  | .failed (.store (.conflict _)) =>
      (conflict "This image has already been verified for this user", [])
  | .failed (.scorer fault) =>
      if fault.transient then
        (unavailable "Image processor unavailable", explain "Image processor unavailable")
      else
        (internal ("Verification failed at " ++ failure.operation), explain "Verification failed")
  | .failed _ =>
      (internal ("Verification failed at " ++ failure.operation), explain "Verification failed")

def ofStore (failure : OperationFailure StoreFault) : Explained :=
  match failure.cause with
  | .failed .notFound => (notFound "result not found", [])
  | .interrupted kind => (ofInterrupt failure.operation kind, [])
  | .failed _ =>
      (internal "A database error occurred",
        [⟨.error, "Store operation failed",
          [("operation", .text failure.operation), ("error", .shown failure.text)]⟩])

end Rejection

end ImageVerification
