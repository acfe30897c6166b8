import ImageVerification.Encoding.Utf8

/-! Base 64 over the alphabet that is safe in URLs, without padding.

Reading is strict: every byte list has one written form, and all other texts are refused.
-/

namespace ImageVerification.Encoding.Base64Url

def digit (value : Nat) : Char :=
  if value < 26 then Char.ofNat (65 + value)
  else if value < 52 then Char.ofNat (71 + value)
  else if value < 62 then Char.ofNat (value - 4)
  else if value = 62 then '-'
  else '_'

def digitValue? (digit : Char) : Option Nat :=
  if 'A' ≤ digit ∧ digit ≤ 'Z' then some (digit.toNat - 65)
  else if 'a' ≤ digit ∧ digit ≤ 'z' then some (digit.toNat - 71)
  else if '0' ≤ digit ∧ digit ≤ '9' then some (digit.toNat + 4)
  else if digit = '-' then some 62
  else if digit = '_' then some 63
  else none

def encode : Bytes → List Char
  | [] => []
  | [a] =>
      let group := a.toNat * 16
      [digit (group / 64), digit (group % 64)]
  | [a, b] =>
      let group := (a.toNat * 256 + b.toNat) * 4
      [digit (group / 4096), digit (group / 64 % 64), digit (group % 64)]
  | a :: b :: c :: rest =>
      let group := (a.toNat * 256 + b.toNat) * 256 + c.toNat
      digit (group / 262144) :: digit (group / 4096 % 64) :: digit (group / 64 % 64)
        :: digit (group % 64) :: encode rest

/-- Regroups digits into bytes; the bits left over after the last byte have to be zero. -/
def decodeDigits? : List Nat → Option Bytes
  | [] => some []
  | [_] => none
  | [p, q] =>
      if q % 16 = 0 then some [UInt8.ofNat (p * 4 + q / 16)] else none
  | [p, q, r] =>
      if r % 4 = 0 then
        let group := (p * 64 + q) * 16 + r / 4
        some [UInt8.ofNat (group / 256), UInt8.ofNat (group % 256)]
      else none
  | p :: q :: r :: s :: rest =>
      let group := ((p * 64 + q) * 64 + r) * 64 + s
      (decodeDigits? rest).map fun bytes =>
        UInt8.ofNat (group / 65536) :: UInt8.ofNat (group / 256 % 256)
          :: UInt8.ofNat (group % 256) :: bytes

def decode? (text : List Char) : Option Bytes :=
  (text.mapM digitValue?).bind decodeDigits?

end ImageVerification.Encoding.Base64Url
