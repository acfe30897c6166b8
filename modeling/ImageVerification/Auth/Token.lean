import ImageVerification.Auth.Member
import ImageVerification.Binary.Word
import ImageVerification.Encoding.Base64Url
import ImageVerification.Hash.Sha256
import ImageVerification.Json.Parser

/-! Signed tokens: a header, claims and a signature, joined by dots.

Only the algorithm HS256 is accepted. Claims about expiry are optional, and one that is not a number
of 64 bits is treated as absent.
-/

namespace ImageVerification.Token

open Encoding Json

inductive Fault where
  | malformed
  | base64
  | json
  | wrongAlgorithm
  | wrongSignature
  | expired
deriving DecidableEq

/-- The audience of a token, if it names one. -/
inductive Audience where
  | unspecified
  | one (name : String)
  | many (names : List String)
deriving DecidableEq

namespace Audience

def contains (expected : String) : Audience → Bool
  | unspecified => false
  | one name => name == expected
  | many names => names.contains expected

end Audience

structure Claims where
  subject : String
  audience : Audience
  /-- Seconds since the start of 1970. -/
  expiry : Option Nat
deriving DecidableEq

/-- The parts of a token as written; dots in front of the last two belong to the header. -/
structure Parts where
  header : List Char
  claims : List Char
  signature : List Char
deriving DecidableEq

/-- Splits at the last dot. -/
def splitLast (cs : List Char) : Option (List Char × List Char) :=
  let back := cs.reverse
  match back.dropWhile (· != '.') with
  | [] => none
  | _ :: front => some (front.reverse, (back.takeWhile (· != '.')).reverse)

def split? (token : List Char) : Option Parts := do
  let (message, signature) ← splitLast token
  let (header, claims) ← splitLast message
  return { header, claims, signature }

/-- A document of bytes: each byte is looked at as a character of its own. -/
def document? (bytes : Bytes) : Option Value :=
  Parser.document? (bytes.map fun byte => Char.ofNat byte.toNat)

def decodePart (part : List Char) : Except Fault Value :=
  match Base64Url.decode? part with
  | none => .error .base64
  | some bytes =>
      match document? bytes with
      | none => .error .json
      | some value => .ok value

/-- The fields of a header besides the algorithm, and what each may hold. -/
def headerFields : List (String × (Value → Bool)) :=
  [("typ", isTextOrNull), ("cty", isTextOrNull), ("jku", isTextOrNull), ("jwk", isKeyOrNull),
   ("kid", isTextOrNull), ("x5u", isTextOrNull), ("x5c", isTextsOrNull), ("x5t", isTextOrNull),
   ("x5t#S256", isTextOrNull)]

/-- The algorithm that a header names; an array holds the fields in a fixed order. -/
def headerAlgorithm? : Value → Option String
  | .object fields => do
      let fields ← fieldsByName? RawText.textOfBytes? fields
      let algorithm ← (← unique? "alg" fields).bind (choice? algorithms)
      if allow headerFields fields then some algorithm else none
  | .array (kind :: algorithm :: rest) =>
      let allowed := headerFields.drop 1
      if isTextOrNull kind && rest.length == allowed.length
          && (allowed.zip rest).all fun (field, value) => field.2 value then
        choice? algorithms algorithm
      else none
  | _ => none

/-- An audience; null counts as absent. -/
def audience? : Option Value → Option Audience
  | none => some .unspecified
  | some .null => some .unspecified
  | some (.text raw) => raw.textOfBytes?.map .one
  | some (.array items) => (items.mapM text?).map .many
  | some _ => none

/-- The seconds that a number stands for, if they fit 64 bits; fractions are rounded, a half away
from zero.
-/
def seconds? (literal : Literal) : Option Nat :=
  match Number.ofLiteral? literal with
  | some (.natural n) => some n
  | some (.float x) =>
      match x.value with
      | .finite negative significand scale =>
          let unit := Nat.pow 2 Binary.Format.double.unitExponent
          let numerator := significand * Nat.pow 2 scale
          if (negative && significand != 0) || numerator ≥ Word.limit64 * unit then none
          else some ((2 * numerator + unit) / (2 * unit))
      | _ => none
  | _ => none

/-- Whether a value is read past where a number is expected. -/
def isSkipped : Value → Bool
  | .number literal => isNumberPassed literal
  | .text raw => isTextPassed raw
  | .array items => items.isEmpty
  | .object fields => fields.isEmpty
  | _ => true

/-- A point in time if the claim has one; a claim of another kind counts as absent, except that
nothing of it may be left unread.
-/
def instant? : Option Value → Option (Option Nat)
  | none => some none
  | some value =>
      let time :=
        match value with
        | .number literal => seconds? literal
        | _ => none
      if time.isSome || isSkipped value then some time else none

def subject? : Option Value → Option String
  | none => some ""
  | some value => text? value

/-- No claim that is looked at may occur twice. -/
def claims? : Value → Option Claims
  | .object fields => do
      let fields ← fieldsByName? RawText.textOfBytes? fields
      let subject ← subject? (← unique? "sub" fields)
      let audience ← audience? (← unique? "aud" fields)
      let issuer ← unique? "iss" fields
      let _ ← instant? (← unique? "nbf" fields)
      let expiry ← instant? (← unique? "exp" fields)
      if issuer.all (isPassed maxLevels) then some { subject, audience, expiry } else none
  | _ => none

/-- The signature of a message under a secret, as written in a token. -/
def sign (secret : Bytes) (message : List Char) : List Char :=
  Base64Url.encode (Hash.Sha256.keyed secret (Utf8.encode (String.ofList message)))

/-- Expired tokens are accepted this many seconds longer. -/
def leeway : Nat := 60

/-- The earliest expiry that is still accepted. The difference is one of 64-bit words, which wraps
for a clock that shows less than the leeway.
-/
def earliestExpiry (now : Nat) : Nat :=
  if leeway ≤ now then now - leeway else Word.limit64 + now - leeway

/-- Reads the claims of a token that is signed with the secret and has not expired. -/
def verify (secret : Bytes) (now : Nat) (token : List Char) : Except Fault Claims := do
  let some parts := split? token | .error .malformed
  let header ← decodePart parts.header
  let some algorithm := headerAlgorithm? header | .error .json
  if algorithm != "HS256" then
    .error .wrongAlgorithm
  else if parts.signature != sign secret (parts.header ++ '.' :: parts.claims) then
    .error .wrongSignature
  else
    let body ← decodePart parts.claims
    let some claims := claims? body | .error .json
    if claims.expiry.any (· < earliestExpiry now) then .error .expired
    else .ok claims

end ImageVerification.Token
