import ImageVerification.Api.Rejection
import ImageVerification.Auth.Token
import ImageVerification.Http.Message

/-! Who sent a request: the subject of the bearer token in its authorization header. -/

namespace ImageVerification

/-- What tokens are checked against. -/
structure Authority where
  secret : String
  audience : Option String
deriving DecidableEq

namespace Authority

/-- A blank audience is none. -/
def make (secret : String) (audience : Option String) : Authority :=
  ⟨secret, audience.filter fun name => !(Text.trimText name).isEmpty⟩

def unauthorized (code detail : String) : Rejection := .unauthorized code detail

def ofTokenFault : Token.Fault → Rejection
  | .malformed => unauthorized "AUTH_INVALID_TOKEN" "JWT validation failed: InvalidToken"
  | .base64 => unauthorized "AUTH_INVALID_TOKEN" "JWT validation failed: Base64 error"
  | .json => unauthorized "AUTH_INVALID_TOKEN" "JWT validation failed: JSON error"
  | .wrongAlgorithm => unauthorized "AUTH_INVALID_TOKEN" "JWT validation failed: InvalidAlgorithm"
  | .wrongSignature => unauthorized "AUTH_INVALID_TOKEN" "Invalid JWT signature"
  | .expired => unauthorized "AUTH_TOKEN_EXPIRED" "JWT token has expired"

/-- The subject of a valid token for the expected audience. -/
def subject (authority : Authority) (now : Nat) (token : List Char) : Except Rejection String :=
  match Token.verify (Encoding.Utf8.encode authority.secret) now token with
  | .error fault => .error (ofTokenFault fault)
  | .ok claims =>
      if authority.audience.any fun expected => !claims.audience.contains expected then
        .error (unauthorized "AUTH_INVALID_AUDIENCE" "Token audience does not match")
      else if claims.subject.isEmpty then
        .error (unauthorized "AUTH_MISSING_SUBJECT" "Token has no subject")
      else .ok claims.subject

/-- The token in the value of an authorization header. -/
def bearerToken (value : Option Bytes) : Except Rejection (List Char) :=
  match value with
  | none => .error (unauthorized "AUTH_MISSING_TOKEN" "Missing Authorization header")
  | some value =>
      match Http.visible? value with
      | none =>
          .error (unauthorized "AUTH_INVALID_TOKEN" "Invalid Authorization header encoding")
      | some cs =>
          match cs.dropWhile (· != ' ') with
          | _ :: rest =>
              if Text.lower (String.ofList (cs.takeWhile (· != ' '))) = "bearer" then
                let token := Text.trim rest
                if token.isEmpty then
                  .error (unauthorized "AUTH_MISSING_TOKEN" "Bearer token is empty")
                else .ok token
              else
                .error (unauthorized "AUTH_INVALID_TOKEN"
                  "Authorization header must use Bearer scheme")
          | [] =>
              .error (unauthorized "AUTH_INVALID_TOKEN"
                "Authorization header must use Bearer scheme")

/-- The user whom the authorization header of a request authenticates. -/
def authenticate (authority : Authority) (now : Nat) (value : Option Bytes)
    : Except Rejection String := do
  authority.subject now (← bearerToken value)

end Authority

end ImageVerification
