import ImageVerification.Binary.Number
import ImageVerification.Text.Quoted

/-! Log events. -/

namespace ImageVerification

inductive Level where
  | error
  | warn
  | info
  | debug
  | trace
deriving DecidableEq

namespace Level

def name : Level → String
  | error => "ERROR"
  | warn => "WARN"
  | info => "INFO"
  | debug => "DEBUG"
  | trace => "TRACE"

/-- The least severe level has the highest rank. -/
def rank : Level → Nat
  | error => 1
  | warn => 2
  | info => 3
  | debug => 4
  | trace => 5

end Level

/-- What a field holds; `shown` texts appear in log lines without quotes. -/
inductive FieldValue where
  | text (value : String)
  | shown (value : String)
  /-- Why a JSON text does not read as it should, in the words of who read it. -/
  | unreadable (source : String)
  | natural (value : Nat)
  | bool (value : Bool)
  | double (value : Binary64)
deriving DecidableEq

structure Event where
  level : Level
  message : String
  fields : List (String × FieldValue)
deriving DecidableEq

namespace Event

/-- The field that names a request, absent when the name is empty. -/
def requestField (id : String) : List (String × FieldValue) :=
  if id.isEmpty then [] else [("request_id", .text id)]

end Event

end ImageVerification
