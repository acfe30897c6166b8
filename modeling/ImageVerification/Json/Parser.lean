import ImageVerification.Json.Text

/-! Reading JSON documents.

Each reader takes characters and returns what it read with the characters after it.
-/

namespace ImageVerification.Json.Parser

def isBlank (c : Char) : Bool := c = ' ' || c = '\n' || c = '\t' || c = '\r'

def skipBlank (cs : List Char) : List Char := cs.dropWhile isBlank

def isHexDigit (c : Char) : Bool := (Encoding.Hex.digitValue? c).isSome

/-- The rest of a text up to its closing quote; `done` holds what came before, last first. -/
def rawTextFrom (done : List Char) : List Char → Option (RawText × List Char)
  | [] => none
  | '"' :: rest => some (done.reverse, rest)
  | '\\' :: 'u' :: a :: b :: c :: d :: rest =>
      if isHexDigit a && isHexDigit b && isHexDigit c && isHexDigit d then
        rawTextFrom (d :: c :: b :: a :: 'u' :: '\\' :: done) rest
      else none
  | '\\' :: c :: rest =>
      if (simpleEscape? c).isSome then rawTextFrom (c :: '\\' :: done) rest else none
  | c :: rest => if c.toNat < 32 || c = '\\' then none else rawTextFrom (c :: done) rest

/-- A nonempty run of digits. -/
def digits? (cs : List Char) : Option (List Char × List Char) :=
  match cs.takeWhile Char.isDigit with
  | [] => none
  | ds => some (ds, cs.dropWhile Char.isDigit)

/-- A whole part has no zero in front of other digits. -/
def whole? : List Char → Option (List Char × List Char)
  | '0' :: rest => some (['0'], rest)
  | cs => digits? cs

def fraction? : List Char → Option (Option (List Char) × List Char)
  | '.' :: rest => (digits? rest).map fun (ds, rest) => (some ds, rest)
  | cs => some (none, cs)

def exponentSign : List Char → Bool × List Char
  | '-' :: rest => (true, rest)
  | '+' :: rest => (false, rest)
  | cs => (false, cs)

def exponent? : List Char → Option (Option (Bool × List Char) × List Char)
  | [] => some (none, [])
  | c :: rest =>
      if c = 'e' || c = 'E' then
        let (negative, rest) := exponentSign rest
        (digits? rest).map fun (ds, rest) => (some (negative, ds), rest)
      else some (none, c :: rest)

def unsigned? (negative : Bool) (cs : List Char) : Option (Literal × List Char) := do
  let (whole, cs) ← whole? cs
  let (fraction, cs) ← fraction? cs
  let (exponent, cs) ← exponent? cs
  return ({ negative, whole, fraction, exponent }, cs)

def literal? : List Char → Option (Literal × List Char)
  | '-' :: rest => unsigned? true rest
  | cs => unsigned? false cs

mutual

/-- One value. The first argument bounds the number of steps. -/
def value? : Nat → List Char → Option (Value × List Char)
  | 0, _ => none
  | fuel + 1, cs =>
      match skipBlank cs with
      | 'n' :: 'u' :: 'l' :: 'l' :: rest => some (.null, rest)
      | 't' :: 'r' :: 'u' :: 'e' :: rest => some (.bool true, rest)
      | 'f' :: 'a' :: 'l' :: 's' :: 'e' :: rest => some (.bool false, rest)
      | '"' :: rest => (rawTextFrom [] rest).map fun (raw, rest) => (.text raw, rest)
      | '[' :: rest =>
          match skipBlank rest with
          | ']' :: rest => some (.array [], rest)
          | rest => (items? fuel rest).map fun (items, rest) => (.array items, rest)
      | '\x7b' :: rest =>
          match skipBlank rest with
          | '\x7d' :: rest => some (.object [], rest)
          | rest => (fields? fuel rest).map fun (fields, rest) => (.object fields, rest)
      | rest => (literal? rest).map fun (literal, rest) => (.number literal, rest)

/-- The values of an array up to its closing bracket. -/
def items? : Nat → List Char → Option (List Value × List Char)
  | 0, _ => none
  | fuel + 1, cs =>
      match value? fuel cs with
      | none => none
      | some (item, rest) =>
          match skipBlank rest with
          | ']' :: rest => some ([item], rest)
          | ',' :: rest => (items? fuel rest).map fun (items, rest) => (item :: items, rest)
          | _ => none

/-- The fields of an object up to its closing brace. -/
def fields? : Nat → List Char → Option (List (RawText × Value) × List Char)
  | 0, _ => none
  | fuel + 1, cs =>
      match skipBlank cs with
      | '"' :: rest =>
          match rawTextFrom [] rest with
          | none => none
          | some (key, rest) =>
              match skipBlank rest with
              | ':' :: rest =>
                  match value? fuel rest with
                  | none => none
                  | some (item, rest) =>
                      match skipBlank rest with
                      | '\x7d' :: rest => some ([(key, item)], rest)
                      | ',' :: rest =>
                          (fields? fuel rest).map fun (fields, rest) =>
                            ((key, item) :: fields, rest)
                      | _ => none
              | _ => none
      | _ => none

end

/-- A whole document: one value between blanks. -/
def document? (cs : List Char) : Option Value :=
  match value? (2 * cs.length + 1) cs with
  | some (value, rest) => if (skipBlank rest).isEmpty then some value else none
  | none => none

end ImageVerification.Json.Parser
