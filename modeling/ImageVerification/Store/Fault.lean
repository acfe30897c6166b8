import ImageVerification.Fault.Database
import ImageVerification.Fault.Operation

/-! What can go wrong with the durable store. -/

namespace ImageVerification

inductive StoreFault where
  | notFound
  | conflict (detail : String)
  | database (fault : DatabaseFault)
  | unavailable (detail : String)
deriving DecidableEq

namespace StoreFault

def text : StoreFault → String
  | notFound => "record not found"
  | conflict detail => "uniqueness violation: " ++ detail
  | database fault => "database error: " ++ fault.text
  | unavailable detail => "store unavailable: " ++ detail

def transient : StoreFault → Bool
  | database fault => fault.transient
  | _ => false

def label : StoreFault → String
  | notFound => "store.not_found"
  | conflict _ => "store.conflict"
  | database _ => "store.database"
  | unavailable _ => "store.unavailable"

instance : Fault StoreFault := ⟨text, transient, label⟩

/-- A missing row and a violated uniqueness rule are answers of the store. -/
def ofDatabase : DatabaseFault → StoreFault
  | .rowNotFound => notFound
  | .report found =>
      if found.uniqueViolation then conflict found.message else database (.report found)
  | fault => database fault

def isNotFound : StoreFault → Bool
  | notFound => true
  | _ => false

def isConflict : StoreFault → Bool
  | conflict _ => true
  | _ => false

end StoreFault

end ImageVerification
