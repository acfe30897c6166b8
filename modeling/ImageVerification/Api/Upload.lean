import ImageVerification.Api.Rejection

/-! Which uploads are accepted. -/

namespace ImageVerification.Upload

def allowedTypes : List String := ["image/jpeg", "image/png", "image/gif", "image/webp"]

/-- A content type without its parameters, in lower case. No letter outside ASCII has a lower case
that occurs in an allowed type, so ASCII letters suffice. -/
def essence (contentType : String) : String :=
  Text.lower (String.ofList (Text.trim (contentType.toList.takeWhile (· != ';'))))

def checkType (contentType : Option String) : Except Rejection Unit :=
  let given := contentType.getD ""
  if allowedTypes.contains (essence given) then .ok ()
  else
    .error (.unsupportedMediaType
      ("Unsupported Content-Type: '" ++ given ++ "'. Allowed types: "
        ++ ", ".intercalate allowedTypes))

def checkSize (size limit : Nat) : Except Rejection Unit :=
  if size = 0 then .error (.badRequest "image file is empty")
  else if limit < size then
    .error (.payloadTooLarge
      ("File too large: " ++ String.ofList (Decimal.digits size) ++ " bytes exceeds maximum of "
        ++ String.ofList (Decimal.digits limit) ++ " bytes"))
  else .ok ()

end ImageVerification.Upload
