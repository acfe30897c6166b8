import ImageVerification.Fault.Basic
import ImageVerification.Text.Quoted

/-! Statuses with which a remote procedure call ends. -/

namespace ImageVerification

inductive GrpcCode where
  | ok | cancelled | unknown | invalidArgument | deadlineExceeded | notFound | alreadyExists
  | permissionDenied | resourceExhausted | failedPrecondition | aborted | outOfRange
  | unimplemented | internal | unavailable | dataLoss | unauthenticated
deriving DecidableEq

namespace GrpcCode

/-- In the order of their numbers. -/
def all : List GrpcCode :=
  [ok, cancelled, unknown, invalidArgument, deadlineExceeded, notFound, alreadyExists,
   permissionDenied, resourceExhausted, failedPrecondition, aborted, outOfRange, unimplemented,
   internal, unavailable, dataLoss, unauthenticated]

/-- Numbers without a code of their own are unknown. -/
def ofInt (number : Int) : GrpcCode :=
  if number < 0 then unknown else all.getD number.toNat unknown

def name : GrpcCode → String
  | ok => "Ok"
  | cancelled => "Cancelled"
  | unknown => "Unknown"
  | invalidArgument => "InvalidArgument"
  | deadlineExceeded => "DeadlineExceeded"
  | notFound => "NotFound"
  | alreadyExists => "AlreadyExists"
  | permissionDenied => "PermissionDenied"
  | resourceExhausted => "ResourceExhausted"
  | failedPrecondition => "FailedPrecondition"
  | aborted => "Aborted"
  | outOfRange => "OutOfRange"
  | unimplemented => "Unimplemented"
  | internal => "Internal"
  | unavailable => "Unavailable"
  | dataLoss => "DataLoss"
  | unauthenticated => "Unauthenticated"

def description : GrpcCode → String
  | ok => "The operation completed successfully"
  | cancelled => "The operation was cancelled"
  | unknown => "Unknown error"
  | invalidArgument => "Client specified an invalid argument"
  | deadlineExceeded => "Deadline expired before operation could complete"
  | notFound => "Some requested entity was not found"
  | alreadyExists => "Some entity that we attempted to create already exists"
  | permissionDenied =>
      "The caller does not have permission to execute the specified operation"
  | resourceExhausted => "Some resource has been exhausted"
  | failedPrecondition => "The system is not in a state required for the operation's execution"
  | aborted => "The operation was aborted"
  | outOfRange => "Operation was attempted past the valid range"
  | unimplemented => "Operation is not implemented or not supported"
  | internal => "Internal error"
  | unavailable => "The service is currently unavailable"
  | dataLoss => "Unrecoverable data loss or corruption"
  | unauthenticated => "The request does not have valid authentication credentials"

end GrpcCode

structure GrpcStatus where
  code : GrpcCode
  message : String
deriving DecidableEq

namespace GrpcStatus

def text (status : GrpcStatus) : String :=
  "status: " ++ status.code.name ++ ", message: " ++ Text.quoted status.message
    ++ ", details: [], metadata: MetadataMap \x7b headers: \x7b\x7d \x7d"

def transient (status : GrpcStatus) : Bool :=
  status.code = .unavailable || status.code = .deadlineExceeded
    || status.code = .resourceExhausted

instance : Fault GrpcStatus := ⟨text, transient, fun _ => "grpc"⟩

end GrpcStatus

end ImageVerification
