import ImageVerification.Context

/-! Failures of whole operations: which operation, for which request, and why. -/

namespace ImageVerification

inductive Cause (ε : Type) where
  | failed (fault : ε)
  | interrupted (kind : Interrupt)
deriving DecidableEq

structure OperationFailure (ε : Type) where
  operation : String
  correlationId : String
  cause : Cause ε
deriving DecidableEq

def Cause.text {ε : Type} [Fault ε] : Cause ε → String
  | .failed fault => message fault
  | .interrupted kind => kind.text

namespace OperationFailure

variable {ε δ : Type}

def failed (operation correlationId : String) (fault : ε) : OperationFailure ε :=
  ⟨operation, correlationId, .failed fault⟩

def interrupted (operation correlationId : String) (kind : Interrupt) : OperationFailure ε :=
  ⟨operation, correlationId, .interrupted kind⟩

def fault? (failure : OperationFailure ε) : Option ε :=
  match failure.cause with
  | .failed fault => some fault
  | .interrupted _ => none

def interruption? (failure : OperationFailure ε) : Option Interrupt :=
  match failure.cause with
  | .failed _ => none
  | .interrupted kind => some kind

/-- The same failure under another operation and with another kind of fault. -/
def mapFault (failure : OperationFailure ε) (operation : String) (f : ε → δ) : OperationFailure δ :=
  {
    operation
    correlationId := failure.correlationId
    cause :=
      match failure.cause with
      | .failed fault => .failed (f fault)
      | .interrupted kind => .interrupted kind
  }

def text [Fault ε] (failure : OperationFailure ε) : String :=
  if failure.correlationId.isEmpty then failure.operation ++ ": " ++ failure.cause.text
  else failure.operation ++ " (request_id=" ++ failure.correlationId ++ "): " ++ failure.cause.text

end OperationFailure

end ImageVerification
