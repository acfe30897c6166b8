import ImageVerification.Verification

/-! What the API answers when all went well: JSON objects with their fields in a fixed order. -/

namespace ImageVerification.Answer

open Json Writer

def timestamp (instant : Timestamp) : List Char := '"' :: instant.render ++ ['"']

def verification (outcome : VerificationOutcome) : List Char :=
  let record := outcome.record
  object
    [("request_id", quote outcome.requestId), ("verified", bool outcome.verdict.success),
     ("score", single outcome.verdict.score), ("message", quote outcome.verdict.message),
     ("metadata", object
        [("timestamp", timestamp record.createdAt), ("success", bool record.success),
         ("score", single record.score)]),
     ("created_at", timestamp record.createdAt)]

def result (record : Record) : List Char :=
  object
    [("request_id", quote record.requestId), ("user_id", quote record.userId),
     ("score", single record.score), ("success", bool record.success),
     ("details", quote record.details), ("sha1_hash", quote record.fingerprint),
     ("created_at", timestamp record.createdAt)]

def duplicate (record : Record) : List Char :=
  object
    [("request_id", quote record.requestId), ("score", single record.score),
     ("success", bool record.success), ("details", quote record.details),
     ("created_at", timestamp record.createdAt)]

def duplicates (report : DuplicateReport) : List Char :=
  object
    [("request_id", quote report.requested.requestId), ("user_id", quote report.requested.userId),
     ("sha1_hash", quote report.requested.fingerprint),
     ("duplicate_count", natural report.duplicates.length),
     ("duplicates", array (report.duplicates.map duplicate))]

def metrics (summary : MetricsSummary) : List Char :=
  object
    [("total_requests", integer summary.totalRequests),
     ("successful_requests", integer summary.successfulRequests),
     ("success_rate", double summary.successRate), ("average_score", double summary.averageScore),
     ("average_processing_latency_ms", double summary.averageLatency)]

/-- The version of the service. -/
def version : String := "0.1.0"

def health (reachable : Bool) (store cache : String) : List Char :=
  object
    [("status", quote (if reachable then "ok" else "degraded")), ("version", quote version),
     ("service", quote "aicheck-server"), ("store", quote store), ("cache", quote cache)]

def ready : List Char := object [("ready", bool true)]

def notReady : List Char :=
  object [("ready", bool false), ("message", quote "Durable store unreachable")]

end ImageVerification.Answer
