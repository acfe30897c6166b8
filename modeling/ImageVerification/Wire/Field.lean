import ImageVerification.Binary.Word
import ImageVerification.Wire.Varint

/-! Messages as lists of tagged fields. -/

namespace ImageVerification.Wire

inductive Payload where
  | varint (value : Nat)
  | fixed64 (bytes : Bytes)
  | bytes (bytes : Bytes)
  | group
  | fixed32 (bytes : Bytes)
deriving DecidableEq

structure Field where
  tag : Nat
  payload : Payload
deriving DecidableEq

/-- The tag and the wire type in front of a field. -/
def readKey (bytes : Bytes) : Option ((Nat × Nat) × Bytes) :=
  match decodeVarint bytes with
  | some (key, rest) =>
      if key < Word.limit32 ∧ 8 ≤ key then some ((key / 8, key % 8), rest) else none
  | none => none

/-- The first bytes of a list, if it has that many. -/
def readBytes (count : Nat) (bytes : Bytes) : Option (Bytes × Bytes) :=
  let front := bytes.take count
  if front.length = count then some (front, bytes.drop count) else none

/-- Groups nest at most this deep. -/
def maxDepth : Nat := 100

mutual

/-- One field after its key; `steps` bounds the number of steps. -/
def readPayload (steps depth tag : Nat) (wireType : Nat) (bytes : Bytes)
    : Option (Payload × Bytes) :=
  match steps with
  | 0 => none
  | steps + 1 =>
      match wireType with
      | 0 => (decodeVarint bytes).map fun (value, rest) => (.varint value, rest)
      | 1 => (readBytes 8 bytes).map fun (front, rest) => (.fixed64 front, rest)
      | 2 =>
          match decodeVarint bytes with
          | some (length, rest) =>
              (readBytes length rest).map fun (front, rest) => (.bytes front, rest)
          | none => none
      | 3 =>
          if depth < maxDepth then
            (skipGroup steps depth tag bytes).map fun rest => (.group, rest)
          else none
      | 5 => (readBytes 4 bytes).map fun (front, rest) => (.fixed32 front, rest)
      | _ => none

/-- The bytes after the end of a group. -/
def skipGroup (steps depth tag : Nat) (bytes : Bytes) : Option Bytes :=
  match steps with
  | 0 => none
  | steps + 1 =>
      match readKey bytes with
      | none => none
      | some ((inner, wireType), rest) =>
          if wireType = 4 then
            if inner = tag then some rest else none
          else if depth + 1 < maxDepth then
            match readPayload steps (depth + 1) inner wireType rest with
            | some (_, rest) => skipGroup steps depth tag rest
            | none => none
          else none

end

/-- The first field; `steps` bounds the number of steps. -/
def readField (steps : Nat) (bytes : Bytes) : Option (Field × Bytes) :=
  match readKey bytes with
  | some ((tag, wireType), rest) =>
      (readPayload steps 0 tag wireType rest).map fun (payload, rest) =>
        (⟨tag, payload⟩, rest)
  | none => none

/-- All fields of a message; `done` holds those already read, last first. -/
def readFieldsFrom (done : List Field) : Nat → Bytes → Option (List Field)
  | _, [] => some done.reverse
  | 0, _ => none
  | steps + 1, bytes =>
      match readField (steps + 1) bytes with
      | some (field, rest) => readFieldsFrom (field :: done) steps rest
      | none => none

def decodeFields (bytes : Bytes) : Option (List Field) :=
  readFieldsFrom [] (bytes.length + 1) bytes

def encodeKey (tag wireType : Nat) : Bytes := encodeVarint (tag * 8 + wireType)

def encodeField (field : Field) : Bytes :=
  match field.payload with
  | .varint value => encodeKey field.tag 0 ++ encodeVarint value
  | .fixed64 bytes => encodeKey field.tag 1 ++ bytes
  | .bytes bytes => encodeKey field.tag 2 ++ encodeVarint bytes.length ++ bytes
  | .group => encodeKey field.tag 3 ++ encodeKey field.tag 4
  | .fixed32 bytes => encodeKey field.tag 5 ++ bytes

def encodeFields (fields : List Field) : Bytes := fields.flatMap encodeField

end ImageVerification.Wire
