import ImageVerification.Encoding.Hex
import ImageVerification.Hash.Sha1

/-! Fingerprints: images of the same bytes have the same one. -/

namespace ImageVerification

namespace Fingerprint

/-- The number of characters of every fingerprint. -/
def length : Nat := 40

/-- The hexadecimal SHA-1 hash of the image. -/
def ofImage (image : Bytes) : String := Encoding.Hex.encode (Hash.Sha1.hash image)

/-- A digest has five words, however long the image is. -/
theorem length_ofImage (image : Bytes) : (ofImage image).length = length :=
  Encoding.Hex.length_encode (Hash.Sha1.hash image)

example : ofImage (Encoding.Utf8.encode "abc") = "a9993e364706816aba3e25717850c26c9cd0d89d" := by
  decide +kernel

example : ofImage [] = "da39a3ee5e6b4b0d3255bfef95601890afd80709" := by
  decide +kernel

end Fingerprint

end ImageVerification
