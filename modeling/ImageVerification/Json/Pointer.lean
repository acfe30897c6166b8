import ImageVerification.Json.Text

/-! Pointers: names of fields and numbers of items that lead to a place in a document. -/

namespace ImageVerification.Json

abbrev Pointer := List (List Char)

namespace Pointer

/-- Slashes and tildes inside a name are written as a tilde and a digit. -/
def unescapeName : List Char → List Char
  | '~' :: '1' :: rest => '/' :: unescapeName rest
  | '~' :: '0' :: rest => '~' :: unescapeName rest
  | c :: rest => c :: unescapeName rest
  | [] => []

/-- The names after each slash; `name` holds the one being read, last character first. -/
def names (name : List Char) : List Char → Pointer
  | [] => [unescapeName name.reverse]
  | '/' :: rest => unescapeName name.reverse :: names [] rest
  | c :: rest => names (c :: name) rest

/-- The empty pointer leads to the whole document; any other starts with a slash. -/
def parse? : List Char → Option Pointer
  | [] => some []
  | '/' :: rest => some (names [] rest)
  | _ => none

/-- Decimal digits without a leading zero. -/
def index? (name : List Char) : Option Nat :=
  if name.isEmpty || !name.all Char.isDigit || (name.head? == some '0' && name.length != 1) then
    none
  else some (name.foldl (fun n d => n * 10 + (d.toNat - 48)) 0)

end Pointer

/-- Whether a text comes no later than another in the order of their characters. -/
def notAfter : List Char → List Char → Bool
  | [], _ => true
  | _ :: _, [] => false
  | a :: as, b :: bs => a < b || (a == b && notAfter as bs)

namespace Value

/-- The value that a name leads to. -/
def child? (value : Value) (name : List Char) : Option Value :=
  match value with
  | .object fields => fields.lookup (escape name)
  | .array items => (Pointer.index? name).bind fun index => items[index]?
  | _ => none

def at? (value : Value) : Pointer → Option Value
  | [] => some value
  | name :: rest => (value.child? name).bind fun child => child.at? rest

/-- The names of the fields of an object, in order of their characters. -/
def sortedNames? : Value → Option (List RawText)
  | .object fields => some ((fields.map Prod.fst).mergeSort notAfter)
  | _ => none

end Value

end ImageVerification.Json
