import ImageVerification.Binary.Number
import ImageVerification.Time.Timestamp

/-! Records: the durable outcome of one verification. -/

namespace ImageVerification

structure Record where
  requestId : String
  userId : String
  fingerprint : String
  details : String
  score : Binary32
  success : Bool
  /-- How long the scorer took, in milliseconds. -/
  latency : Binary64
  createdAt : Timestamp
deriving DecidableEq

namespace Record

/-- The later record first. -/
def newestFirst (a b : Record) : Bool := b.createdAt.le a.createdAt

end Record

/-- A record and the other records of the same image, newest first. -/
structure DuplicateReport where
  requested : Record
  duplicates : List Record
deriving DecidableEq

end ImageVerification
