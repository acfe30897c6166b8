import ImageVerification.Collaborator
import ImageVerification.Retry

/-! The cache with retries, and what the service keeps in it. -/

namespace ImageVerification.CacheAside

open Collaborator

abbrev Outcome (α : Type) := Except (OperationFailure CacheFault) α

/-- What stands under a request's key while the request is being worked on. -/
def marker : String := "processing"

def markerLifetime : Duration := ⟨60000000000, by decide⟩

def snapshotLifetime : Duration := ⟨300000000000, by decide⟩

/-- The key of a request's marker and snapshot. -/
def key (requestId : String) : String := "verification:" ++ requestId

def set (ctx : Context) (task : Task) (key value : String) (ttl : Duration)
    : Action (Outcome Unit) :=
  RetryPlan.cache.repeatAttempts ctx task fun ctx => Flow.perform ctx (Call.cacheSet key value ttl)

/-- An absent value is a miss, which is neither repeated nor logged. -/
def get (ctx : Context) (task : Task) (key : String) : Action (Outcome String) := do
  let found ← RetryPlan.cache.repeatAttempts ctx task fun ctx =>
    Flow.perform ctx (Call.cacheGet key)
  return match found with
    | .error failure => .error failure
    | .ok (some value) => .ok value
    | .ok none => .error (.failed task.operation task.correlationId .miss)

end ImageVerification.CacheAside
