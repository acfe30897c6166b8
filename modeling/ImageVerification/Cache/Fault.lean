import ImageVerification.Fault.Operation
import ImageVerification.Fault.Redis

/-! What can go wrong with the cache. -/

namespace ImageVerification

inductive CacheFault where
  | miss
  | redis (fault : RedisFault)
  | unavailable (detail : String) (passing : Bool)
deriving DecidableEq

namespace CacheFault

def text : CacheFault → String
  | miss => "cache miss"
  | redis fault => "redis error: " ++ fault.text
  | unavailable detail _ => "cache unavailable: " ++ detail

def transient : CacheFault → Bool
  | miss => false
  | redis fault => fault.transient
  | unavailable _ passing => passing

def label : CacheFault → String
  | miss => "cache.miss"
  | redis _ => "cache.redis"
  | unavailable .. => "cache.unavailable"

instance : Fault CacheFault := ⟨text, transient, label⟩

def isMiss : CacheFault → Bool
  | miss => true
  | _ => false

end CacheFault

end ImageVerification
