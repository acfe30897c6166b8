import ImageVerification.Time.Duration

/-! The cache kept in memory: a map whose entries expire.

An expired entry stays until it is looked up or the map is purged, but it is never found.
-/

namespace ImageVerification

structure ExpiringEntry where
  key : String
  value : String
  expiresAt : Instant
deriving DecidableEq

structure ExpiringMap where
  entries : List ExpiringEntry
deriving DecidableEq

namespace ExpiringMap

def empty : ExpiringMap := ⟨[]⟩

def isLive (now : Instant) (entry : ExpiringEntry) : Bool := now < entry.expiresAt

def set (map : ExpiringMap) (now : Instant) (key value : String) (ttl : Duration) : ExpiringMap :=
  ⟨⟨key, value, now + ttl.nanos⟩ :: map.entries.filter (·.key != key)⟩

/-- The entry of a key, expired or not. -/
def entry? (map : ExpiringMap) (key : String) : Option ExpiringEntry :=
  map.entries.find? (·.key == key)

/-- The first half of a lookup: the value of a live entry. -/
def peek (map : ExpiringMap) (now : Instant) (key : String) : Option String :=
  ((map.entry? key).filter (isLive now)).map (·.value)

/-- The second half of a lookup that found nothing: drops the entry if it has expired. -/
def evict (map : ExpiringMap) (now : Instant) (key : String) : ExpiringMap :=
  ⟨map.entries.filter fun entry => entry.key != key || isLive now entry⟩

def get (map : ExpiringMap) (now : Instant) (key : String) : Option String × ExpiringMap :=
  match map.peek now key with
  | some value => (some value, map)
  | none => (none, map.evict now key)

def purge (map : ExpiringMap) (now : Instant) : ExpiringMap :=
  ⟨map.entries.filter (isLive now)⟩

/-- The number of entries, expired ones included. -/
def size (map : ExpiringMap) : Nat := map.entries.length

end ExpiringMap

end ImageVerification
