import ImageVerification.Cache.Aside
import ImageVerification.Fingerprint
import ImageVerification.Snapshot
import ImageVerification.Store.Repository

/-! The service: verifying images and looking up what came of it.

A verification marks its request in the cache, asks the scorer once, saves a record and caches a
snapshot of the record; it stops at the first stage that fails. Lookups prefer the snapshot and
fall back to the store, whatever is wrong with the cache.
-/

namespace ImageVerification

/-- Whose records a duplicate report covers. -/
inductive DuplicateScope where
  | owner
  | global
deriving DecidableEq

namespace DuplicateScope

/-- Blanks around the name and the case of its letters do not matter. -/
def parse (text : String) : Except String DuplicateScope :=
  match Text.lower (Text.trimText text) with
  | "owner" | "user" => .ok owner
  | "global" | "all" => .ok global
  | other => .error ("unknown duplicate scope: " ++ other)

end DuplicateScope

/-- What a stage of a verification can fail with. -/
inductive StageFault where
  | cache (fault : CacheFault)
  | store (fault : StoreFault)
  | scorer (fault : ScorerFault)
  | encoding (detail : String)
deriving DecidableEq

namespace StageFault

def text : StageFault → String
  | cache fault => fault.text
  | store fault => fault.text
  | scorer fault => fault.text
  | encoding detail => "failed to encode cached snapshot: " ++ detail

def transient : StageFault → Bool
  | cache fault => fault.transient
  | store fault => fault.transient
  | scorer fault => fault.transient
  | encoding _ => false

def label : StageFault → String
  | cache fault => "verify." ++ fault.label
  | store fault => "verify." ++ fault.label
  | scorer fault => "verify." ++ fault.label
  | encoding _ => "verify.encode"

instance : Fault StageFault := ⟨text, transient, label⟩

def isNotFound : StageFault → Bool
  | store fault => fault.isNotFound
  | _ => false

def isConflict : StageFault → Bool
  | store fault => fault.isConflict
  | _ => false

end StageFault

structure VerificationOutcome where
  requestId : String
  verdict : Verdict
  record : Record
deriving DecidableEq

namespace Verification

open Collaborator

abbrev StageFailure := OperationFailure StageFault

namespace Stage

def mark : String := "cache.set.processing"

def score : String := "grpc_process_image"

def save : String := "save_log"

def cacheResult : String := "cache.set.result"

def readCached : String := "cache.get.result"

end Stage

def abortedEvent (failure : StageFailure) : Event :=
  ⟨.error, "verification aborted",
    [("stage", .text failure.operation), ("request_id", .text failure.correlationId),
     ("error", .shown failure.text)]⟩

def completedEvent (record : Record) : Event :=
  ⟨.info, "verification completed",
    [("request_id", .shown record.requestId), ("user_id", .text record.userId),
     ("score", .double record.score.widen), ("success", .bool record.success),
     ("latency_ms", .double record.latency)]⟩

def abort {α : Type} (failure : StageFailure) : Action (Except StageFailure α) := do
  Flow.note (abortedEvent failure)
  return .error failure

/-- Milliseconds between two instants, by way of seconds. -/
def latency (started finished : Instant) : Binary64 :=
  let nanos := finished - started
  (Binary64.ofNat (nanos / 1000000000)
      + Binary64.ofNat (nanos % 1000000000) / Binary64.ofNat 1000000000)
    * Binary64.ofNat 1000

def details (verdict : Verdict) (fingerprint : String) : String :=
  "status:" ++ (if verdict.success then "true" else "false") ++ " score:"
    ++ String.ofList (Decimal.renderFixed Binary.Format.single 6 verdict.score.value)
    ++ " hash:" ++ fingerprint

def makeRecord (requestId userId : String) (image : Bytes) (verdict : Verdict)
    (latency : Binary64) (createdAt : Timestamp) : Record :=
  let fingerprint := Fingerprint.ofImage image
  {
    requestId
    userId
    fingerprint
    details := details verdict fingerprint
    score := verdict.score
    success := verdict.success
    latency
    createdAt
  }

/-- Caches the snapshot of a record that has been saved. -/
def cacheResult (ctx : Context) (verdict : Verdict) (record : Record)
    : Action (Except StageFailure VerificationOutcome) := do
  let snapshot := (Snapshot.ofRecord record).encode
  match ← CacheAside.set ctx ⟨Stage.cacheResult, record.requestId⟩ (CacheAside.key record.requestId)
      snapshot CacheAside.snapshotLifetime with
  | .error failure => abort (failure.mapFault Stage.cacheResult .cache)
  | .ok () =>
      Flow.note (completedEvent record)
      return .ok ⟨record.requestId, verdict, record⟩

def saveRecord (ctx : Context) (verdict : Verdict) (record : Record)
    : Action (Except StageFailure VerificationOutcome) := do
  match ← Repository.save ctx record with
  | .error failure => abort (failure.mapFault Stage.save .store)
  | .ok () => cacheResult ctx verdict record

/-- The scorer is asked once, whatever it answers. -/
def scoreImage (ctx : Context) (requestId userId : String) (image : Bytes)
    : Action (Except StageFailure VerificationOutcome) := do
  let started ← Flow.readClocks
  match ← Flow.perform ctx (Call.score userId image ctx.deadline) with
  | .error kind => abort (.interrupted Stage.score requestId kind)
  | .ok (.error fault) => abort (.failed Stage.score requestId (.scorer fault))
  | .ok (.ok verdict) =>
      let finished ← Flow.readClocks
      saveRecord ctx verdict
        (makeRecord requestId userId image verdict (latency started.instant finished.instant)
          finished.wall)

/-- Verifies an image for a user under a fresh request id. -/
def verify (ctx : Context) (userId : String) (image : Bytes)
    : Action (Except StageFailure VerificationOutcome) := do
  let requestId ← Flow.freshName
  match ← CacheAside.set ctx ⟨Stage.mark, requestId⟩ (CacheAside.key requestId) CacheAside.marker
      CacheAside.markerLifetime with
  | .error failure => abort (failure.mapFault Stage.mark .cache)
  | .ok () => scoreImage ctx requestId userId image

def stillProcessingEvent (requestId : String) : Event :=
  ⟨.debug, "result still processing, reading store", [("request_id", .text requestId)]⟩

def undecodableEvent (requestId cached : String) : Event :=
  ⟨.warn, "failed to decode cached result",
    [("request_id", .text requestId), ("error", .unreadable cached)]⟩

def unreadableEvent (requestId : String) (failure : OperationFailure CacheFault) : Event :=
  ⟨.warn, "failed to read cache",
    [("request_id", .text requestId), ("error", .shown failure.text)]⟩

/-- The result of a request that the user owns. -/
def result (ctx : Context) (userId requestId : String) : Action (Repository.Outcome Record) := do
  match ← CacheAside.get ctx ⟨Stage.readCached, requestId⟩ (CacheAside.key requestId) with
  | .ok cached =>
      if cached = CacheAside.marker then
        Flow.note (stillProcessingEvent requestId)
        Repository.find ctx requestId userId
      else
        match Snapshot.decode? cached with
        | some snapshot => return .ok (snapshot.toRecord userId requestId)
        | none =>
            Flow.note (undecodableEvent requestId cached)
            Repository.find ctx requestId userId
  | .error failure =>
      if failure.fault?.any CacheFault.isMiss then Repository.find ctx requestId userId
      else
        Flow.note (unreadableEvent requestId failure)
        Repository.find ctx requestId userId

/-- The record of a request and the others of its image, within the scope. -/
def duplicateReport (scope : DuplicateScope) (ctx : Context) (userId requestId : String)
    : Action (Repository.Outcome DuplicateReport) := do
  match ← Repository.find ctx requestId userId with
  | .error failure => return .error failure
  | .ok requested =>
      let owner :=
        match scope with
        | .owner => some userId
        | .global => none
      match ← Repository.duplicates ctx owner requested.fingerprint (some requested.requestId) with
      | .error failure => return .error failure
      | .ok duplicates => return .ok ⟨requested, duplicates⟩

def metrics (ctx : Context) : Action (Repository.Outcome MetricsSummary) := do
  match ← Repository.totals ctx with
  | .error failure => return .error failure
  | .ok totals => return .ok totals.summary

end Verification

end ImageVerification
