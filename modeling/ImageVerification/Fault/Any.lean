import ImageVerification.Cache.Fault
import ImageVerification.Scoring.Verdict
import ImageVerification.Store.Fault

/-! Faults of every family in one type. -/

namespace ImageVerification

inductive AnyFault where
  | connection (fault : ConnectionFault)
  | interrupt (kind : Interrupt)
  | database (fault : DatabaseFault)
  | redis (fault : RedisFault)
  | grpc (status : GrpcStatus)
  | store (fault : StoreFault)
  | cache (fault : CacheFault)
  | scorer (fault : ScorerFault)
deriving DecidableEq

namespace AnyFault

def text : AnyFault → String
  | connection fault => fault.text
  | interrupt kind => kind.text
  | database fault => fault.text
  | redis fault => fault.text
  | grpc status => status.text
  | store fault => fault.text
  | cache fault => fault.text
  | scorer fault => fault.text

def transient : AnyFault → Bool
  | connection fault => fault.transient
  | interrupt kind => isTransient kind
  | database fault => fault.transient
  | redis fault => fault.transient
  | grpc status => status.transient
  | store fault => fault.transient
  | cache fault => fault.transient
  | scorer fault => fault.transient

def label : AnyFault → String
  | connection fault => kind fault
  | interrupt stop => kind stop
  | database fault => kind fault
  | redis fault => kind fault
  | grpc status => kind status
  | store fault => fault.label
  | cache fault => fault.label
  | scorer fault => fault.label

instance : Fault AnyFault := ⟨text, transient, label⟩

end AnyFault

end ImageVerification
