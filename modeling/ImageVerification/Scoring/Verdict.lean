import ImageVerification.Decimal.Notation
import ImageVerification.Fault.Grpc

/-! Verdicts of the scorer, and what can go wrong on the way to one. -/

namespace ImageVerification

structure Verdict where
  success : Bool
  score : Binary32
  message : String
deriving DecidableEq

inductive ScorerFault where
  | status (ended : GrpcStatus)
  | transport (detail : String)
  | invalidResponse (detail : String)
deriving DecidableEq

namespace ScorerFault

def text : ScorerFault → String
  | status ended =>
      "scorer returned status " ++ ended.code.description ++ ": " ++ ended.message
  | transport detail => "scorer transport error: " ++ detail
  | invalidResponse detail => "invalid scorer response: " ++ detail

def transient : ScorerFault → Bool
  | status ended => ended.transient
  | transport _ => true
  | invalidResponse _ => false

def label : ScorerFault → String
  | status _ => "scorer.status"
  | transport _ => "scorer.transport"
  | invalidResponse _ => "scorer.invalid"

instance : Fault ScorerFault := ⟨text, transient, label⟩

end ScorerFault

end ImageVerification
