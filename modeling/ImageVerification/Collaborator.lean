import ImageVerification.Cache.Fault
import ImageVerification.Encoding.Utf8
import ImageVerification.Flow
import ImageVerification.Metrics
import ImageVerification.Scoring.Verdict
import ImageVerification.Store.Fault

/-! The collaborators of the service: a cache, a durable store and a scorer. -/

namespace ImageVerification

namespace Collaborator

inductive Call where
  | cacheSet (key value : String) (ttl : Duration)
  | cacheGet (key : String)
  | storeSave (record : Record)
  | storeFind (requestId userId : String)
  | storeDuplicates (owner : Option String) (fingerprint : String) (exclude : Option String)
  | storeTotals
  | storePing
  | storePrepare
  | score (userId : String) (image : Bytes) (deadline : Option Instant)
deriving DecidableEq

abbrev Reply : Call → Type
  | .cacheSet .. => Except CacheFault Unit
  | .cacheGet .. => Except CacheFault (Option String)
  | .storeSave .. => Except StoreFault Unit
  | .storeFind .. => Except StoreFault Record
  | .storeDuplicates .. => Except StoreFault (List Record)
  | .storeTotals => Except StoreFault Totals
  | .storePing => Except StoreFault Unit
  | .storePrepare => Except StoreFault Unit
  | .score .. => Except ScorerFault Verdict

end Collaborator

/-- A flow over the collaborators. -/
abbrev Action (α : Type) := Flow Collaborator.Call Collaborator.Reply α

end ImageVerification
