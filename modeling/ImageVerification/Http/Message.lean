import ImageVerification.Address.Ip
import ImageVerification.Binary.Word
import ImageVerification.Decimal.Notation
import ImageVerification.Encoding.Utf8
import ImageVerification.Text.Blank

/-! Requests and responses. -/

namespace ImageVerification.Http

/-- Names of headers are kept in lower case. -/
abbrev Headers := List (String × Bytes)

structure Request where
  method : String
  target : String
  headers : Headers
  body : Bytes
  peer : Option SocketAddress
deriving DecidableEq

structure Response where
  status : Nat
  headers : List (String × String)
  body : String
deriving DecidableEq

namespace Request

/-- The first value of a header. -/
def header? (request : Request) (name : String) : Option Bytes := request.headers.lookup name

/-- The target without its query. -/
def path (request : Request) : List Char :=
  request.target.toList.takeWhile fun c => c != '?' && c != '#'

end Request

namespace Response

def empty (status : Nat) : Response := ⟨status, [], ""⟩

def plain (status : Nat) (body : String) : Response :=
  ⟨status, [("content-type", "text/plain; charset=utf-8")], body⟩

def json (status : Nat) (body : List Char) : Response :=
  ⟨status, [("content-type", "application/json")], String.ofList body⟩

def withHeader (response : Response) (name value : String) : Response :=
  { response with headers := response.headers ++ [(name, value)] }

end Response

/-- Whether a byte may stand in a header value: no control character other than the tab does. -/
def isValueByte (byte : UInt8) : Bool := (32 ≤ byte && byte != 127) || byte == 9

/-- Whether a byte may stand in a header value that is read as text. -/
def isVisible (byte : UInt8) : Bool := (32 ≤ byte && byte < 127) || byte == 9

/-- The characters of a header value that is plain ASCII text. -/
def visible? (value : Bytes) : Option (List Char) :=
  if value.all isVisible then some (value.map fun byte => Char.ofNat byte.toNat) else none

/-- The size of the body that headers announce, if it can be read and fits 64 bits. -/
def announcedLength? (headers : Headers) : Option Nat :=
  ((headers.lookup "content-length").bind visible?).bind (Decimal.readBelow? Word.limit64)

end ImageVerification.Http
