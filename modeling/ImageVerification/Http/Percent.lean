import ImageVerification.Encoding.Hex

/-! Percent-encoded bytes in paths. -/

namespace ImageVerification.Http.Percent

open Encoding

/-- A percent sign without two hexadecimal digits after it stands for itself. -/
def decodeBytes : Bytes → Bytes
  | 37 :: a :: b :: rest =>
      match Hex.digitValue? (Char.ofNat a.toNat), Hex.digitValue? (Char.ofNat b.toNat) with
      | some high, some low => UInt8.ofNat (high * 16 + low) :: decodeBytes rest
      | _, _ => 37 :: decodeBytes (a :: b :: rest)
  | byte :: rest => byte :: decodeBytes rest
  | [] => []

/-- Fails when the bytes are no text. -/
def decode? (text : List Char) : Option String :=
  Utf8.decode? (decodeBytes (Utf8.encode (String.ofList text)))

end ImageVerification.Http.Percent
