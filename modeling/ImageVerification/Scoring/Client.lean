import ImageVerification.Address.Uri
import ImageVerification.Event
import ImageVerification.Scoring.Message

/-! The client of the scorer: one remote procedure call for each image.

Messages travel in frames of a flag, a length in four bytes and the message itself.
-/

namespace ImageVerification.Scoring.Client

/-- What the scorer's server receives. -/
structure RemoteCall where
  method : String
  path : String
  contentType : String
  /-- The time that the call has, in nanoseconds. -/
  timeout : Option Nat
  body : Bytes
deriving DecidableEq

/-- How a call ends, with the frame that came before its end. -/
structure RemoteReply where
  body : Bytes
  status : GrpcStatus
deriving DecidableEq

/-- The bytes of a length, the most significant one first. -/
def lengthBytes (length : UInt32) : Bytes :=
  [(length >>> 24).toUInt8, (length >>> 16).toUInt8, (length >>> 8).toUInt8, length.toUInt8]

/-- A frame of an uncompressed message. -/
def frame (message : Bytes) : Bytes :=
  0 :: lengthBytes (UInt32.ofNat message.length) ++ message

/-- The message of a frame. -/
def unframe? : Bytes → Option Bytes
  | 0 :: a :: b :: c :: d :: message =>
      let length := ((a.toNat * 256 + b.toNat) * 256 + c.toNat) * 256 + d.toNat
      if length = message.length then some message else none
  | _ => none

/-- Whether a client can be made for an address; it is not contacted yet. -/
def configure (address : String) : Except ScorerFault Unit :=
  if (Uri.parse? address).isSome then .ok ()
  else
    .error (.transport
      ("invalid scorer address " ++ Text.quoted address ++ ": invalid URI"))

/-- Logged when a client has been made. -/
def configuredEvent (address : String) : Event :=
  ⟨.info, "Image processor client configured", [("addr", .text address)]⟩

def remoteCall (timeout : Option Nat) (userId : String) (image : Bytes) : RemoteCall :=
  {
    method := "POST"
    path := methodPath
    contentType := "application/grpc"
    timeout
    body := frame (Request.encode ⟨userId, image⟩)
  }

def missing : ScorerFault := .status ⟨.internal, "Missing response message."⟩

/-- What the end of a call says about the image. -/
def verdict (reply : RemoteReply) : Except ScorerFault Verdict :=
  if reply.status.code ≠ .ok then .error (.status reply.status)
  else
    match (unframe? reply.body).bind Response.decode? with
    | none => .error missing
    | some response => response.toVerdict

variable {m : Type → Type} [Monad m]

/-- Asks for a verdict on an image, within the time that is left. -/
def score (send : RemoteCall → m RemoteReply) (timeout : Option Nat) (userId : String)
    (image : Bytes) : m (Except ScorerFault Verdict) := do
  let reply ← send (remoteCall timeout userId image)
  return verdict reply

end ImageVerification.Scoring.Client
