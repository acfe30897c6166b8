import ImageVerification.Binary.Word
import ImageVerification.Encoding.Utf8

/-! Numbers in groups of seven bits, the lowest first; all bytes but the last have the high bit. -/

namespace ImageVerification.Wire

def encodeVarint (n : Nat) : Bytes :=
  if h : n < 128 then [UInt8.ofNat n]
  else UInt8.ofNat (n % 128 + 128) :: encodeVarint (n / 128)
termination_by n
decreasing_by omega

/-- Reads up to the given number of bytes, as a number and the bytes after it. -/
def readVarint : Nat → Bytes → Option (Nat × Bytes)
  | 0, _ => none
  | _, [] => none
  | count + 1, byte :: rest =>
      if byte.toNat < 128 then some (byte.toNat, rest)
      else (readVarint count rest).map fun (high, rest) => (byte.toNat - 128 + 128 * high, rest)

/-- A number of at most 64 bits in at most ten bytes. -/
def decodeVarint (bytes : Bytes) : Option (Nat × Bytes) :=
  match readVarint 10 bytes with
  | some (n, rest) => if n < Word.limit64 then some (n, rest) else none
  | none => none

end ImageVerification.Wire
