import ImageVerification.Address.Ip
import ImageVerification.Binary.Word
import ImageVerification.Time.Duration

/-! Limiting the rate of requests for each client address.

A client has a bucket of permits. A request takes one of them, and is refused when there is none.
The bucket gets a permit back for each period that passes, until it is full again.
-/

namespace ImageVerification.Http

/-- `period` is in nanoseconds. -/
structure Quota where
  period : Nat
  burst : Nat
deriving DecidableEq

namespace Quota

/-- How long a full burst takes to become available again. -/
def window (quota : Quota) : Nat := quota.period * quota.burst

/-- Windows are counted with 64 bits. -/
def windowLimit : Nat := Word.limit64

end Quota

/-- When the bucket of each client seen so far is full again. -/
structure Limiter where
  refills : List (IpAddress × Instant)
deriving DecidableEq

namespace Limiter

def empty : Limiter := ⟨[]⟩

/-- When the bucket of a client is full again; that of a new client always has been. -/
def fullAt (limiter : Limiter) (client : IpAddress) : Instant :=
  (limiter.refills.lookup client).getD 0

/-- Whether a request is admitted, and the limiter after it. -/
def arrive (limiter : Limiter) (quota : Quota) (now : Instant) (client : IpAddress)
    : Bool × Limiter :=
  let fullAt := max (limiter.fullAt client) now + quota.period
  if now + quota.window < fullAt then (false, limiter)
  else (true, ⟨(client, fullAt) :: limiter.refills.filter fun entry => entry.1 != client⟩)

end Limiter

end ImageVerification.Http
