import ImageVerification.Json.Number
import ImageVerification.Json.Parser
import ImageVerification.Json.Writer
import ImageVerification.Record
import ImageVerification.Time.Rfc3339

/-! Snapshots: what the cache keeps of a record, as a JSON text. -/

namespace ImageVerification

structure Snapshot where
  requestId : String
  userId : String
  score : Binary32
  success : Bool
  details : String
  fingerprint : String
  createdAt : Timestamp
deriving DecidableEq

namespace Snapshot

def ofRecord (record : Record) : Snapshot :=
  {
    requestId := record.requestId
    userId := record.userId
    score := record.score
    success := record.success
    details := record.details
    fingerprint := record.fingerprint
    createdAt := record.createdAt
  }

def orElse (text fallback : String) : String := if text.isEmpty then fallback else text

/-- The record a snapshot stands for when it was looked up by a user and a request; these fill in
what the snapshot leaves empty, and the latency is lost. -/
def toRecord (snapshot : Snapshot) (userId requestId : String) : Record :=
  {
    requestId := orElse snapshot.requestId requestId
    userId := orElse snapshot.userId userId
    fingerprint := snapshot.fingerprint
    details := snapshot.details
    score := snapshot.score
    success := snapshot.success
    latency := .zero
    createdAt := snapshot.createdAt
  }

def render (snapshot : Snapshot) : List Char :=
  Json.Writer.object
    [("request_id", Json.quote snapshot.requestId),
     ("user_id", Json.quote snapshot.userId),
     ("score", Json.Writer.single snapshot.score),
     ("success", Json.Writer.bool snapshot.success),
     ("details", Json.quote snapshot.details),
     ("sha1_hash", Json.quote snapshot.fingerprint),
     ("created_at", '"' :: snapshot.createdAt.render ++ ['"'])]

def encode (snapshot : Snapshot) : String := String.ofList snapshot.render

namespace Reader

open Json

def text? : Value → Option String
  | .text raw => raw.text?
  | _ => none

def bool? : Value → Option Bool
  | .bool value => some value
  | _ => none

def score? : Value → Option Binary32
  | .number literal => (Number.ofLiteral? literal).map Number.toBinary32
  | _ => none

def timestamp? (value : Value) : Option Timestamp :=
  (text? value).bind fun text => Timestamp.parse? text.toList

/-- A text that may be absent. -/
def textOrEmpty? : Option Value → Option String
  | none => some ""
  | some value => text? value

def ofValues? (requestId userId score success details fingerprint createdAt : Option Value)
    : Option Snapshot := do
  return {
    requestId := ← textOrEmpty? requestId
    userId := ← textOrEmpty? userId
    score := ← score.bind score?
    success := ← success.bind bool?
    details := ← textOrEmpty? details
    fingerprint := ← fingerprint.bind text?
    createdAt := ← createdAt.bind timestamp?
  }

end Reader

open Json Reader in
/-- An object may hold other fields too, but none of its own twice; an array holds the fields in
their order. -/
def ofValue? : Value → Option Snapshot
  | .object fields => do
      let fields ← fieldsByName? RawText.text? fields
      ofValues? (← unique? "request_id" fields) (← unique? "user_id" fields)
        (← unique? "score" fields) (← unique? "success" fields) (← unique? "details" fields)
        (← unique? "sha1_hash" fields) (← unique? "created_at" fields)
  | .array [requestId, userId, score, success, details, fingerprint, createdAt] =>
      ofValues? requestId userId score success details fingerprint createdAt
  | _ => none

def decode? (text : String) : Option Snapshot :=
  (Json.Parser.document? text.toList).bind ofValue?

end Snapshot

end ImageVerification
