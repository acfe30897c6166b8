import ImageVerification.Binary.Word
import ImageVerification.Fault.Operation
import ImageVerification.Flow

/-! Attempts that are repeated while they fail transiently. -/

namespace ImageVerification

structure RetryPlan where
  attempts : Nat
  firstWait : Duration
  longestWait : Duration
deriving DecidableEq

namespace RetryPlan

def store : RetryPlan := ⟨3, ⟨100000000, by decide⟩, ⟨2000000000, by decide⟩⟩

def cache : RetryPlan := ⟨3, ⟨50000000, by decide⟩, ⟨1000000000, by decide⟩⟩

/-- The wait before a retry, counted from zero: doubled each time up to the maximum, which also
stands in where the factor has more than 32 bits or the product is out of range. -/
def waitBefore (plan : RetryPlan) (retry : Nat) : Duration :=
  if retry < 32 then
    match plan.firstWait.mul? (Nat.pow 2 retry) with
    | some wait => wait.min plan.longestWait
    | none => plan.longestWait
  else plan.longestWait

end RetryPlan

/-- What a run of attempts is about. -/
structure Task where
  operation : String
  correlationId : String

namespace Task

def fields (task : Task) (attempt : Nat) : List (String × FieldValue) :=
  ("operation", .text task.operation) :: Event.requestField task.correlationId
    ++ [("attempt", .natural attempt)]

def interruptedEvent (task : Task) (attempt : Nat) (kind : Interrupt) : Event :=
  ⟨.error, "operation failed", task.fields attempt ++ [("error", .shown kind.text)]⟩

def failedEvent {ε : Type} [Fault ε] (task : Task) (attempt : Nat) (fault : ε) : Event :=
  ⟨.error, "operation failed",
    task.fields attempt
      ++ [("transient", .bool (isTransient fault)), ("error", .shown (message fault))]⟩

def recoveredEvent (task : Task) (attempt : Nat) : Event :=
  ⟨.info, "operation succeeded after retry", task.fields attempt⟩

def transientEvent {ε : Type} [Fault ε] (task : Task) (attempt : Nat) (wait : Duration)
    (fault : ε) : Event :=
  ⟨.warn, "transient error encountered",
    task.fields attempt
      ++ [("backoff_ms", .natural (wait.millis % Word.limit64)), ("error", .shown (message fault))]⟩

def abortedEvent (task : Task) (attempt : Nat) (kind : Interrupt) : Event :=
  ⟨.error, "operation aborted while waiting to retry",
    task.fields attempt ++ [("error", .shown kind.text)]⟩

end Task

namespace RetryPlan

variable {Call : Type} {Reply : Call → Type} {ε α : Type}

/-- An attempt under a context: its outcome, unless the context was interrupted first. -/
abbrev Attempt (Call : Type) (Reply : Call → Type) (ε α : Type) :=
  Context → Flow Call Reply (Except Interrupt (Except ε α))

def interrupt (task : Task) (event : Event) (kind : Interrupt)
    : Flow Call Reply (Except (OperationFailure ε) α) := do
  Flow.note event
  return .error (.interrupted task.operation task.correlationId kind)

def fail [Fault ε] (task : Task) (attempt : Nat) (fault : ε)
    : Flow Call Reply (Except (OperationFailure ε) α) := do
  Flow.note (task.failedEvent attempt fault)
  return .error (.failed task.operation task.correlationId fault)

def succeed (task : Task) (attempt : Nat) (value : α)
    : Flow Call Reply (Except (OperationFailure ε) α) := do
  if attempt > 1 then
    Flow.note (task.recoveredEvent attempt)
  return .ok value

/-- Goes on from the outcome of an attempt; `again` is what a transient fault leads to. -/
def settle [Fault ε] (task : Task) (attempt : Nat)
    (again : ε → Flow Call Reply (Except (OperationFailure ε) α))
    : Except Interrupt (Except ε α) → Flow Call Reply (Except (OperationFailure ε) α)
  | .error kind => interrupt task (task.interruptedEvent attempt kind) kind
  | .ok (.ok value) => succeed task attempt value
  | .ok (.error fault) => if isTransient fault then again fault else fail task attempt fault

/-- Waits after a transient fault and goes on with the next attempt. -/
def waitThen [Fault ε] (plan : RetryPlan) (ctx : Context) (task : Task) (attempt : Nat)
    (next : Flow Call Reply (Except (OperationFailure ε) α)) (fault : ε)
    : Flow Call Reply (Except (OperationFailure ε) α) := do
  let wait := plan.waitBefore (attempt - 1)
  Flow.note (task.transientEvent attempt wait fault)
  match ← Flow.pause ctx wait with
  | .error kind => interrupt task (task.abortedEvent attempt kind) kind
  | .ok () => next

/-- The attempts from number `attempt` on, with `left` more after it. -/
def attemptFrom [Fault ε] (plan : RetryPlan) (ctx : Context) (task : Task)
    (op : Attempt Call Reply ε α)
    : (attempt left : Nat) → Flow Call Reply (Except (OperationFailure ε) α)
  | attempt, 0 => do settle task attempt (fail task attempt) (← op ctx)
  | attempt, left + 1 => do
      let again (fault : ε) :=
        waitThen plan ctx task attempt (attemptFrom plan ctx task op (attempt + 1) left) fault
      settle task attempt again (← op ctx)

/-- A single attempt is not raced against the context and logs nothing. -/
def attemptOnce (task : Task) (op : Attempt Call Reply ε α)
    : Flow Call Reply (Except (OperationFailure ε) α) := do
  match ← op .background with
  | .error kind => return .error (.interrupted task.operation task.correlationId kind)
  | .ok (.error fault) => return .error (.failed task.operation task.correlationId fault)
  | .ok (.ok value) => return .ok value

/-- Repeats an attempt while it fails transiently and the plan allows another one. -/
def repeatAttempts [Fault ε] (plan : RetryPlan) (ctx : Context) (task : Task)
    (op : Attempt Call Reply ε α) : Flow Call Reply (Except (OperationFailure ε) α) :=
  if plan.attempts ≤ 1 then attemptOnce task op
  else attemptFrom plan ctx task op 1 (plan.attempts - 1)

end RetryPlan

end ImageVerification
