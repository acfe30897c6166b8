import ImageVerification.Http.MediaType
import ImageVerification.Http.Message

/-! Header lines, as requests and the fields of forms begin with them. -/

namespace ImageVerification.Http

def crlf : Bytes := [13, 10]

/-- Splits at the first occurrence of a pattern, which the second part starts with; `done` holds
what came before, last first. -/
def splitFrom (pattern : Bytes) (done : Bytes) : Bytes → Option (Bytes × Bytes)
  | [] => none
  | byte :: rest =>
      if pattern.isPrefixOf (byte :: rest) then some (done.reverse, byte :: rest)
      else splitFrom pattern (byte :: done) rest

def splitAt (pattern bytes : Bytes) : Option (Bytes × Bytes) := splitFrom pattern [] bytes

def isNameByte (byte : UInt8) : Bool := MediaType.isTokenChar (Char.ofNat byte.toNat)

def isBlankByte (byte : UInt8) : Bool := byte == 32 || byte == 9

def trimBytes (bytes : Bytes) : Bytes :=
  ((bytes.dropWhile isBlankByte).reverse.dropWhile isBlankByte).reverse

def headerLine? (line : Bytes) : Option (String × Bytes) :=
  let name := line.takeWhile isNameByte
  match name, line.dropWhile isNameByte with
  | _ :: _, 58 :: value =>
      if value.all isValueByte then
        some (Text.lower (String.ofList (name.map fun byte => Char.ofNat byte.toNat)),
          trimBytes value)
      else none
  | _, _ => none

/-- Lines end with a line feed, with or without a carriage return before it. -/
def lines (current : Bytes) : Bytes → List Bytes
  | [] => if current.isEmpty then [] else [current.reverse]
  | 13 :: 10 :: rest => current.reverse :: lines [] rest
  | 10 :: rest => current.reverse :: lines [] rest
  | byte :: rest => lines (byte :: current) rest

/-- The headers of a block of at most so many lines; an empty line ends the block. -/
def headerLines? (most : Nat) (block : Bytes) : Option Headers :=
  let found := (lines [] block).takeWhile (!·.isEmpty)
  if most < found.length then none else found.mapM headerLine?

end ImageVerification.Http
