/-! JSON documents as written: numbers keep their digits and texts keep their escapes, so that a
reader decides for itself how much of a document it looks at.
-/

namespace ImageVerification.Json

/-- A number as written. -/
structure Literal where
  negative : Bool
  whole : List Char
  fraction : Option (List Char)
  exponent : Option (Bool × List Char)
deriving DecidableEq

/-- A text between its quotes, escapes unresolved. -/
abbrev RawText := List Char

inductive Value where
  | null
  | bool (value : Bool)
  | number (literal : Literal)
  | text (raw : RawText)
  | array (items : List Value)
  | object (fields : List (RawText × Value))

end ImageVerification.Json
