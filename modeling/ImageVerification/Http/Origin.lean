import ImageVerification.Event
import ImageVerification.Http.Message

/-! Which origins browsers may call from. -/

namespace ImageVerification.Http

inductive OriginPolicy where
  | anyOrigin
  | listed (origins : List Bytes)
deriving DecidableEq

namespace OriginPolicy

/-- The byte of the wildcard, which cannot stand in a list. -/
def wildcard : Bytes := [42]

/-- Origins that cannot stand in a header are skipped; without any other, every origin is allowed.
A list must not hold the wildcard. -/
def ofSettings (origins : Option (List String)) : Option (OriginPolicy × Event) :=
  let usable := ((origins.getD []).map Encoding.Utf8.encode).filter (·.all isValueByte)
  if usable.isEmpty then
    some (anyOrigin, ⟨.warn, "CORS open to any origin; set ALLOWED_ORIGINS to restrict", []⟩)
  else if usable.contains wildcard then none
  else
    some (listed usable,
      ⟨.info, "CORS restricted", [("origins", .natural usable.length)]⟩)

/-- The origin that a response allows. -/
def allowedOrigin? (policy : OriginPolicy) (origin : Option Bytes) : Option String :=
  match policy with
  | anyOrigin => some "*"
  | listed origins => (origin.filter origins.contains).bind Encoding.Utf8.decode?

def varyHeader : String × String :=
  ("vary", "origin, access-control-request-method, access-control-request-headers")

def originHeaders (policy : OriginPolicy) (request : Request) : List (String × String) :=
  ((policy.allowedOrigin? (request.header? "origin")).map fun origin =>
      ("access-control-allow-origin", origin)).toList

def allowedMethods : OriginPolicy → String
  | anyOrigin => "*"
  | listed _ => "GET,POST,OPTIONS"

def allowedHeaders : OriginPolicy → String
  | anyOrigin => "*"
  | listed _ => "authorization,content-type,accept"

/-- The answer to any OPTIONS request. -/
def preflight (policy : OriginPolicy) (request : Request) : Response :=
  {
    status := 200
    headers :=
      policy.originHeaders request
        ++ [varyHeader, ("access-control-allow-methods", policy.allowedMethods),
            ("access-control-allow-headers", policy.allowedHeaders)]
    body := ""
  }

/-- Adds what browsers want to know to any other response. -/
def decorate (policy : OriginPolicy) (request : Request) (response : Response) : Response :=
  { response with headers := response.headers ++ policy.originHeaders request ++ [varyHeader] }

end OriginPolicy

end ImageVerification.Http
