/-! Faults: what an attempt can fail with. -/

namespace ImageVerification

/-- A fault has a text and a label of its kind, and a transient one may be gone at the next
attempt. -/
class Fault (ε : Type) where
  message : ε → String
  isTransient : ε → Bool
  kind : ε → String

export Fault (message isTransient kind)

end ImageVerification
