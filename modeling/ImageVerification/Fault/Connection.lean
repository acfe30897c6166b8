import ImageVerification.Fault.Basic

/-! Faults of connections and files. -/

namespace ImageVerification

inductive ConnectionFault where
  | notFound | permissionDenied | connectionRefused | connectionReset | connectionAborted
  | notConnected | addressInUse | addressNotAvailable | brokenPipe | alreadyExists | wouldBlock
  | invalidInput | invalidData | timedOut | writeZero | interrupted | unsupported | unexpectedEnd
  | outOfMemory | hostUnreachable | networkUnreachable | networkDown | other
deriving DecidableEq

namespace ConnectionFault

def text : ConnectionFault → String
  | notFound => "entity not found"
  | permissionDenied => "permission denied"
  | connectionRefused => "connection refused"
  | connectionReset => "connection reset"
  | connectionAborted => "connection aborted"
  | notConnected => "not connected"
  | addressInUse => "address in use"
  | addressNotAvailable => "address not available"
  | brokenPipe => "broken pipe"
  | alreadyExists => "entity already exists"
  | wouldBlock => "operation would block"
  | invalidInput => "invalid input parameter"
  | invalidData => "invalid data"
  | timedOut => "timed out"
  | writeZero => "write zero"
  | interrupted => "operation interrupted"
  | unsupported => "unsupported"
  | unexpectedEnd => "unexpected end of file"
  | outOfMemory => "out of memory"
  | hostUnreachable => "host unreachable"
  | networkUnreachable => "network unreachable"
  | networkDown => "network down"
  | other => "other error"

def all : List ConnectionFault :=
  [notFound, permissionDenied, connectionRefused, connectionReset, connectionAborted,
   notConnected, addressInUse, addressNotAvailable, brokenPipe, alreadyExists, wouldBlock,
   invalidInput, invalidData, timedOut, writeZero, interrupted, unsupported, unexpectedEnd,
   outOfMemory, hostUnreachable, networkUnreachable, networkDown, other]

def name : ConnectionFault → String
  | notFound => "NotFound"
  | permissionDenied => "PermissionDenied"
  | connectionRefused => "ConnectionRefused"
  | connectionReset => "ConnectionReset"
  | connectionAborted => "ConnectionAborted"
  | notConnected => "NotConnected"
  | addressInUse => "AddrInUse"
  | addressNotAvailable => "AddrNotAvailable"
  | brokenPipe => "BrokenPipe"
  | alreadyExists => "AlreadyExists"
  | wouldBlock => "WouldBlock"
  | invalidInput => "InvalidInput"
  | invalidData => "InvalidData"
  | timedOut => "TimedOut"
  | writeZero => "WriteZero"
  | interrupted => "Interrupted"
  | unsupported => "Unsupported"
  | unexpectedEnd => "UnexpectedEof"
  | outOfMemory => "OutOfMemory"
  | hostUnreachable => "HostUnreachable"
  | networkUnreachable => "NetworkUnreachable"
  | networkDown => "NetworkDown"
  | other => "Other"

/-- A peer that went away or stalled may come back. -/
def transient : ConnectionFault → Bool
  | timedOut | wouldBlock | interrupted | connectionReset | connectionAborted | brokenPipe
  | notConnected | unexpectedEnd => true
  | _ => false

instance : Fault ConnectionFault := ⟨text, transient, fun fault => "io." ++ fault.name⟩

end ConnectionFault

end ImageVerification
