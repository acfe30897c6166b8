import ImageVerification.Collaborator
import ImageVerification.Retry

/-! The durable store with retries: every operation has a name of its own. -/

namespace ImageVerification.Repository

open Collaborator

abbrev Outcome (α : Type) := Except (OperationFailure StoreFault) α

/-- Creates what the store needs to hold records. -/
def prepare (ctx : Context) : Action (Outcome Unit) :=
  RetryPlan.store.repeatAttempts ctx ⟨"repository.ensure_schema", ""⟩ fun ctx =>
    Flow.perform ctx Call.storePrepare

def save (ctx : Context) (record : Record) : Action (Outcome Unit) :=
  RetryPlan.store.repeatAttempts ctx ⟨"repository.save_log", record.requestId⟩ fun ctx =>
    Flow.perform ctx (Call.storeSave record)

def find (ctx : Context) (requestId userId : String) : Action (Outcome Record) :=
  RetryPlan.store.repeatAttempts ctx ⟨"repository.find_by_request_and_user", requestId⟩ fun ctx =>
    Flow.perform ctx (Call.storeFind requestId userId)

/-- Correlated by the request that is left out. -/
def duplicates (ctx : Context) (owner : Option String) (fingerprint : String)
    (exclude : Option String) : Action (Outcome (List Record)) :=
  RetryPlan.store.repeatAttempts ctx
    ⟨"repository.find_duplicates_by_hash", exclude.getD ""⟩ fun ctx =>
      Flow.perform ctx (Call.storeDuplicates owner fingerprint exclude)

def totals (ctx : Context) : Action (Outcome Totals) :=
  RetryPlan.store.repeatAttempts ctx ⟨"repository.aggregate_metrics", ""⟩ fun ctx =>
    Flow.perform ctx Call.storeTotals

/-- A probe is attempted once, raced against the context, and logs nothing. -/
def ping (ctx : Context) : Action (Outcome Unit) := do
  match ← Flow.perform ctx Call.storePing with
  | .error kind => return .error (.interrupted "repository.ping" "" kind)
  | .ok (.error fault) => return .error (.failed "repository.ping" "" fault)
  | .ok (.ok ()) => return .ok ()

end ImageVerification.Repository
