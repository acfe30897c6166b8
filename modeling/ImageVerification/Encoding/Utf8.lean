/-! UTF-8: texts as byte lists, and the byte lists that are texts. -/

namespace ImageVerification

abbrev Bytes := List UInt8

namespace Encoding.Utf8

def encode (text : String) : Bytes :=
  text.toUTF8.data.toList

/-- Fails exactly on the byte lists that are not well-formed UTF-8. -/
def decode? (bytes : Bytes) : Option String :=
  String.fromUTF8? ⟨bytes.toArray⟩

theorem decode?_encode (text : String) : decode? (encode text) = some text := by
  simp only [decode?, encode, Array.toArray_toList, String.fromUTF8?]
  exact dif_pos text.isValidUTF8

theorem encode_injective {text other : String} (same : encode text = encode other)
    : text = other := by
  have decoded := congrArg decode? same
  rwa [decode?_encode, decode?_encode, Option.some.injEq] at decoded

end Encoding.Utf8

end ImageVerification
