import ImageVerification.Encoding.Hex

/-! Random identifiers of sixteen bytes, written in five groups of hexadecimal digits. -/

namespace ImageVerification.Encoding.Uuid

/-- Marks bytes as a random identifier: version 4 and the usual variant. -/
def stamp (bytes : Bytes) : Bytes :=
  (bytes.modify 6 fun byte => byte &&& 0x0f ||| 0x40).modify 8 fun byte => byte &&& 0x3f ||| 0x80

def render (bytes : Bytes) : String :=
  let group (start length : Nat) : String := Hex.encode ((bytes.drop start).take length)
  "-".intercalate [group 0 4, group 4 2, group 6 2, group 8 2, group 10 6]

/-- The identifier made of random bytes. -/
def ofRandom (bytes : Bytes) : String := render (stamp bytes)

end ImageVerification.Encoding.Uuid
