import ImageVerification.Address.Url
import ImageVerification.Binary.Word
import ImageVerification.Cache.Fault
import ImageVerification.Decimal.Notation
import ImageVerification.Redis.Reply
import ImageVerification.Time.Duration

/-! The cache kept in a Redis server, which is sent one command at a time. -/

namespace ImageVerification.RedisCache

open Redis

abbrev Command := List String

variable {m : Type → Type} [Monad m]

/-- The whole seconds for which an entry is kept: one is added to those of its lifetime if there is
a rest, or if there are none. They have to fit 64 bits.
-/
def lifetimeSeconds? (ttl : Duration) : Option Nat :=
  let seconds :=
    if 0 < ttl.subsecondNanos ∨ ttl.seconds = 0 then ttl.seconds + 1 else ttl.seconds
  if seconds < Word.limit64 then some seconds else none

def schemes : List String := ["redis", "rediss", "redis+unix", "unix"]

def misconfigured (message : String) : RedisFault := .failure .invalidClientConfig message none

/-- The number of a database in 64 bits with a sign, or nothing for the first one. -/
def isDatabasePath (path : List Char) : Bool :=
  match ((path.dropWhile (· == '/')).reverse.dropWhile (· == '/')).reverse with
  | [] => true
  | '-' :: digits =>
      digits.head?.any Char.isDigit && (Decimal.readBelow? (Word.limit63 + 1) digits).isSome
  | digits => (Decimal.readBelow? Word.limit63 digits).isSome

/-- Whether a client can be made for an address. -/
def checkAddress (address : String) : Except CacheFault Unit :=
  match Url.parse address with
  | .error _ => .error (.redis (misconfigured "Redis URL did not parse"))
  | .ok url =>
      if !schemes.contains url.scheme then
        .error (.redis (misconfigured "Redis URL did not parse"))
      else if url.scheme = "redis+unix" || url.scheme = "unix" then .ok ()
      else if url.host.isNone then .error (.redis (misconfigured "Missing hostname"))
      else if url.scheme = "rediss" then
        .error (.redis (misconfigured "can't connect with TLS, the feature is not enabled"))
      else if isDatabasePath url.path then .ok ()
      else .error (.redis (misconfigured "Invalid database number"))

/-- Connects to a server, which has to answer a probe. -/
def connect (send : Command → m Reply) (address : String) : m (Except CacheFault Unit) :=
  match checkAddress address with
  | .error fault => return .error fault
  | .ok () => do
      let reply ← send ["PING"]
      return (reply.text.map fun _ => ()).mapError .redis

/-- There is no outcome for a lifetime of too many seconds. -/
def set (send : Command → m Reply) (key value : String) (ttl : Duration)
    : m (Option (Except CacheFault Unit)) :=
  match lifetimeSeconds? ttl with
  | none => return none
  | some seconds => do
      let reply ← send ["SETEX", key, String.ofList (Decimal.digits seconds), value]
      return some (reply.accepted.mapError .redis)

def get (send : Command → m Reply) (key : String) : m (Except CacheFault (Option String)) := do
  let reply ← send ["GET", key]
  return reply.optionalText.mapError .redis

/-- The name under which this cache reports itself. -/
def backendName : String := "redis"

end ImageVerification.RedisCache
