import ImageVerification.Decimal.Notation
import ImageVerification.Json.Text

/-! Writing JSON documents without blanks, fields in the order given. -/

namespace ImageVerification.Json.Writer

def bool (value : Bool) : List Char := if value then "true".toList else "false".toList

def null : List Char := "null".toList

/-- What has no digits is written as null. -/
def single (x : Binary32) : List Char := x.text?.getD null

def double (x : Binary64) : List Char := x.text?.getD null

def natural (n : Nat) : List Char := Decimal.digits n

def integer (n : Int) : List Char := if n < 0 then '-' :: natural n.natAbs else natural n.natAbs

def separated : List (List Char) → List Char
  | [] => []
  | [part] => part
  | part :: rest => part ++ ',' :: separated rest

def array (items : List (List Char)) : List Char := '[' :: separated items ++ [']']

def field (key : String) (value : List Char) : List Char := quote key ++ ':' :: value

def object (fields : List (String × List Char)) : List Char :=
  '\x7b' :: separated (fields.map fun (key, value) => field key value) ++ ['\x7d']

def exponent : Option (Bool × List Char) → List Char
  | none => []
  | some (true, digits) => 'e' :: '-' :: digits
  | some (false, digits) => 'e' :: digits

/-- The digits of a number as they were read. -/
def literal (number : Literal) : List Char :=
  (if number.negative then ['-'] else []) ++ number.whole
    ++ (number.fraction.map ('.' :: ·)).getD [] ++ exponent number.exponent

mutual

/-- A whole document. -/
def value : Value → List Char
  | .null => null
  | .bool flag => bool flag
  | .number number => literal number
  | .text raw => '"' :: raw ++ ['"']
  | .array items => array (values items)
  | .object fields => '\x7b' :: separated (members fields) ++ ['\x7d']

def values : List Value → List (List Char)
  | [] => []
  | item :: items => value item :: values items

def members : List (RawText × Value) → List (List Char)
  | [] => []
  | (key, item) :: fields => ('"' :: key ++ '"' :: ':' :: value item) :: members fields

end

end ImageVerification.Json.Writer
