import ImageVerification.Scoring.Verdict
import ImageVerification.Wire.Field

/-! The messages exchanged with the scorer.

A field that holds its default is not written, a field read twice takes the last value, and fields
with other tags are skipped.
-/

namespace ImageVerification.Scoring

open Encoding Wire

/-- The path of the method that scores an image. -/
def methodPath : String := "/verify.ImageProcessor/ProcessImage"

structure Request where
  userId : String
  image : Bytes
deriving DecidableEq

structure Response where
  success : Bool
  score : Binary32
  message : String
deriving DecidableEq

def littleEndian32 (word : UInt32) : Bytes :=
  [word.toUInt8, (word >>> 8).toUInt8, (word >>> 16).toUInt8, (word >>> 24).toUInt8]

def ofLittleEndian32? : Bytes → Option UInt32
  | [a, b, c, d] =>
      some (a.toUInt32 ||| b.toUInt32 <<< 8 ||| c.toUInt32 <<< 16 ||| d.toUInt32 <<< 24)
  | _ => none

def bytesField (tag : Nat) (bytes : Bytes) : List Field :=
  if bytes.isEmpty then [] else [⟨tag, .bytes bytes⟩]

def bytes? : Payload → Option Bytes
  | .bytes bytes => some bytes
  | _ => none

def text? (payload : Payload) : Option String := (bytes? payload).bind Utf8.decode?

def bool? : Payload → Option Bool
  | .varint value => some (value != 0)
  | _ => none

def score? : Payload → Option Binary32
  | .fixed32 bytes => (ofLittleEndian32? bytes).map Binary32.mk
  | _ => none

namespace Request

def toFields (request : Request) : List Field :=
  bytesField 1 (Utf8.encode request.userId) ++ bytesField 2 request.image

def encode (request : Request) : Bytes := encodeFields request.toFields

def set? (request : Request) (field : Field) : Option Request :=
  match field.tag with
  | 1 => (text? field.payload).map fun userId => { request with userId }
  | 2 => (bytes? field.payload).map fun image => { request with image }
  | _ => some request

def decode? (bytes : Bytes) : Option Request :=
  (decodeFields bytes).bind fun fields => fields.foldlM set? ⟨"", []⟩

end Request

namespace Response

def toFields (response : Response) : List Field :=
  (if response.success then [⟨1, .varint 1⟩] else [])
    ++ (if response.score.isZero then []
        else [⟨2, .fixed32 (littleEndian32 response.score.bits)⟩])
    ++ bytesField 3 (Utf8.encode response.message)

def encode (response : Response) : Bytes := encodeFields response.toFields

def set? (response : Response) (field : Field) : Option Response :=
  match field.tag with
  | 1 => (bool? field.payload).map fun success => { response with success }
  | 2 => (score? field.payload).map fun score => { response with score }
  | 3 => (text? field.payload).map fun message => { response with message }
  | _ => some response

def decode? (bytes : Bytes) : Option Response :=
  (decodeFields bytes).bind fun fields => fields.foldlM set? ⟨false, .zero, ""⟩

/-- The names of the numbers that are not finite. -/
def nonFiniteName (score : Binary32) : String :=
  match score.value with
  | .nan => "NaN"
  | .infinity true => "-inf"
  | _ => "inf"

/-- Only finite scores are verdicts. -/
def toVerdict (response : Response) : Except ScorerFault Verdict :=
  if response.score.isFinite then
    .ok ⟨response.success, response.score, response.message⟩
  else
    .error (.invalidResponse
      ("score is not a finite number: " ++ nonFiniteName response.score))

end Response

end ImageVerification.Scoring
