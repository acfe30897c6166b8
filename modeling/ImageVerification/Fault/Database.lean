import ImageVerification.Fault.Connection

/-! Faults of a relational database and of the pool of connections to it. -/

namespace ImageVerification

/-- What the database server reports; `code` is an SQLSTATE. -/
structure DatabaseReport where
  code : Option String
  message : String
  uniqueViolation : Bool
deriving DecidableEq

inductive DatabaseFault where
  | poolTimedOut
  | poolClosed
  | rowNotFound
  | workerCrashed
  | protocol (detail : String)
  | columnNotFound (name : String)
  | configuration (detail : String)
  | connection (fault : ConnectionFault)
  | report (found : DatabaseReport)
  /-- Any other fault of the driver, by its text. -/
  | other (detail : String)
deriving DecidableEq

namespace DatabaseFault

def text : DatabaseFault → String
  | poolTimedOut => "pool timed out while waiting for an open connection"
  | poolClosed => "attempted to acquire a connection on a closed pool"
  | rowNotFound => "no rows returned by a query that expected to return at least one row"
  | workerCrashed => "attempted to communicate with a crashed background worker"
  | protocol detail => "encountered unexpected or invalid data: " ++ detail
  | columnNotFound name => "no column found for name: " ++ name
  | configuration detail => "error with configuration: " ++ detail
  | connection fault => "error communicating with database: " ++ fault.text
  | report found => "error returned from database: " ++ found.message
  | other detail => detail

/-- Shutdowns, serialization failures, deadlocks and too many connections. -/
def transientCodes : List String := ["57P01", "57P02", "57P03", "40001", "40P01", "53300"]

/-- Besides the single codes the whole class of connection exceptions is transient. -/
def isTransientCode (code : String) : Bool :=
  ['0', '8'].isPrefixOf code.toList || transientCodes.contains code

def transient : DatabaseFault → Bool
  | poolTimedOut => true
  | connection fault => fault.transient
  | report found => found.code.any isTransientCode
  | _ => false

instance : Fault DatabaseFault := ⟨text, transient, fun _ => "database"⟩

end DatabaseFault

end ImageVerification
