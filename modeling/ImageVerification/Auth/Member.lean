import ImageVerification.Json.Number
import ImageVerification.Json.Text

/-! What the members of a token's documents may hold.

Documents are read as they are needed: a member whose kind does not matter only has to be read past,
and a key that a header carries along is read, but nothing is checked against it.
-/

namespace ImageVerification.Token

open Json

def text? : Value → Option String
  | .text raw => raw.textOfBytes?
  | _ => none

def isTextOrNull : Value → Bool
  | .null => true
  | value => (text? value).isSome

def isNull : Value → Bool
  | .null => true
  | _ => false

def isTextsOrNull : Value → Bool
  | .null => true
  | .array items => items.all fun item => (text? item).isSome
  | _ => false

/-- One of some names: a text, or an object that holds null under the name. -/
def choice? (names : List String) : Value → Option String
  | .text raw => raw.textOfBytes?.filter names.contains
  | .object [(raw, .null)] => raw.textOfBytes?.filter names.contains
  | _ => none

/-- Whether all of a value can be kept: its texts and numbers stand for something, and it is nested
at most so many levels deep.
-/
def isKept : Nat → Value → Bool
  | _, .null => true
  | _, .bool _ => true
  | _, .text raw => raw.textOfBytes?.isSome
  | _, .number literal => (Number.ofLiteral? literal).isSome
  | 0, .array _ => false
  | levels + 1, .array items => items.all (isKept levels)
  | 0, .object _ => false
  | levels + 1, .object fields =>
      fields.all fun (name, item) => name.textOfBytes?.isSome && isKept levels item

/-- The levels to which documents are read, the outermost one apart. -/
def maxLevels : Nat := 126

/-- The code unit that is escaped at the end of a text, with the text before it. -/
def lastEscape? (raw : RawText) : Option (RawText × Nat) :=
  match raw.reverse with
  | d :: c :: b :: a :: 'u' :: '\\' :: front =>
      (unit? a b c d).map fun unit => (front.reverse, unit)
  | _ => none

/-- Whether reading a text leads past its closing quote: all escapes stand for characters, or the
first that does not is a high surrogate at the very end.
-/
def isTextPassed (raw : RawText) : Bool :=
  RawText.resolves raw
    || (lastEscape? raw).any fun (front, unit) => isHighSurrogate unit && RawText.resolves front

/-- Whether reading a number leads past its last digit. -/
def isNumberPassed (literal : Literal) : Bool :=
  (Number.ofLiteral? literal).isSome || !Number.stopsEarly literal

/-- Whether an attempt to keep a value leads past its end: whatever cannot be kept comes last. -/
def isPassed : Nat → Value → Bool
  | _, .null => true
  | _, .bool _ => true
  | _, .text raw => isTextPassed raw
  | _, .number literal => isNumberPassed literal
  | 0, .array _ => false
  | levels + 1, .array items =>
      items.dropLast.all (isKept levels) && items.getLast?.all (isPassed levels)
  | 0, .object _ => false
  | levels + 1, .object fields =>
      (fields.all fun field => field.1.textOfBytes?.isSome)
        && fields.dropLast.all (fun field => isKept levels field.2)
        && fields.getLast?.all fun field => isPassed levels field.2

/-- Whether each of some members is allowed if it is there, and no member is there twice. -/
def allow (members : List (String × (Value → Bool))) (fields : List (String × Value)) : Bool :=
  members.all fun (name, allowed) => (unique? name fields).any (·.all allowed)

/-- Whether each of some members is there once and allowed. -/
def require (members : List (String × (Value → Bool))) (fields : List (String × Value)) : Bool :=
  members.all fun (name, allowed) => (unique? name fields).any (·.any allowed)

/-- The algorithms that sign tokens. -/
def algorithms : List String :=
  ["HS256", "HS384", "HS512", "ES256", "ES384", "RS256", "RS384", "RS512", "PS256", "PS384",
   "PS512", "EdDSA"]

namespace Key

/-- The algorithms that a key may be meant for. -/
def algorithms : List String := Token.algorithms ++ ["RSA1_5", "RSA-OAEP", "RSA-OAEP-256"]

def curves : List String := ["P-256", "P-384", "P-521", "Ed25519"]

def isOneOf (names : List String) (value : Value) : Bool := (choice? names value).isSome

def isText (value : Value) : Bool := (text? value).isSome

/-- What a key of any kind may say about its use. -/
def common : List (String × (Value → Bool)) :=
  [("use", isTextOrNull), ("key_ops", isTextsOrNull),
   ("alg", fun value => isNull value || isOneOf algorithms value), ("kid", isTextOrNull),
   ("x5u", isTextOrNull), ("x5c", isTextsOrNull), ("x5t", isTextOrNull),
   ("x5t#S256", isTextOrNull)]

/-- What makes up a key of each kind. -/
def kinds : List (List (String × (Value → Bool))) :=
  [[("kty", isOneOf ["EC"]), ("crv", isOneOf curves), ("x", isText), ("y", isText)],
   [("kty", isOneOf ["RSA"]), ("n", isText), ("e", isText)],
   [("kty", isOneOf ["oct"]), ("k", isText)],
   [("kty", isOneOf ["OKP"]), ("crv", isOneOf curves), ("x", isText)]]

end Key

/-- Whether a value is a key, or null. -/
def isKeyOrNull : Value → Bool
  | .null => true
  | .object fields =>
      (fieldsByName? RawText.textOfBytes? fields).any fun fields =>
        fields.all (fun field => isKept (maxLevels - 1) field.2)
          && allow Key.common fields
          && Key.kinds.any (require · fields)
  | _ => false

end ImageVerification.Token
