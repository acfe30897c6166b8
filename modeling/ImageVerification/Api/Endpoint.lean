import ImageVerification.Http.Message

/-! The endpoints of the API, the paths that lead to them and the methods they serve. -/

namespace ImageVerification

/-- Request ids are as they stand in the path, percent-encoded. -/
inductive Endpoint where
  | verify
  | result (id : List Char)
  | duplicates (id : List Char)
  | metrics
  | health
  | ready
  | document
deriving DecidableEq

namespace Endpoint

/-- The rest of a path, which has to be a single segment. -/
def segmentAfter? (start path : List Char) : Option (List Char) :=
  let segment := path.drop start.length
  if start.isPrefixOf path && !segment.isEmpty && !segment.contains '/' then some segment else none

def fixed : List (String × Endpoint) :=
  [("/verify", verify), ("/metrics/summary", metrics), ("/health", health), ("/ready", ready),
   ("/api-docs/openapi.json", document)]

def ofPath? (path : List Char) : Option Endpoint :=
  match fixed.lookup (String.ofList path) with
  | some endpoint => some endpoint
  | none =>
      match segmentAfter? "/result/".toList path with
      | some id => some (result id)
      | none => (segmentAfter? "/duplicates/".toList path).map duplicates

def isUpload : Endpoint → Bool
  | verify => true
  | _ => false

def serves (endpoint : Endpoint) (method : String) : Bool :=
  if endpoint.isUpload then method == "POST" else method == "GET" || method == "HEAD"

/-- The methods that a client is told about. -/
def allowed (endpoint : Endpoint) : String := if endpoint.isUpload then "POST" else "GET,HEAD"

end Endpoint

end ImageVerification
