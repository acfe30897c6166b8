import ImageVerification.Encoding.Hex
import ImageVerification.Json.Basic

/-! Texts inside JSON documents: escaping on the way out, resolving escapes on the way in. -/

namespace ImageVerification.Json

open Encoding

def hex4 (code : Nat) : List Char :=
  [Hex.digit (code / 4096), Hex.digit (code / 256 % 16), Hex.digit (code / 16 % 16),
   Hex.digit (code % 16)]

/-- Quotes, backslashes and control characters are escaped, and nothing else. -/
def escapeChar (c : Char) : List Char :=
  if c = '"' then ['\\', '"']
  else if c = '\\' then ['\\', '\\']
  else if c.toNat = 8 then ['\\', 'b']
  else if c.toNat = 12 then ['\\', 'f']
  else if c = '\n' then ['\\', 'n']
  else if c = '\r' then ['\\', 'r']
  else if c = '\t' then ['\\', 't']
  else if c.toNat < 32 then '\\' :: 'u' :: hex4 c.toNat
  else [c]

def escape (text : List Char) : RawText := text.flatMap escapeChar

def quote (text : String) : List Char := '"' :: escape text.toList ++ ['"']

def simpleEscape? : Char → Option Char
  | '"' => some '"'
  | '\\' => some '\\'
  | '/' => some '/'
  | 'b' => some (Char.ofNat 8)
  | 'f' => some (Char.ofNat 12)
  | 'n' => some '\n'
  | 'r' => some '\r'
  | 't' => some '\t'
  | _ => none

/-- The code unit of four hexadecimal digits. -/
def unit? (a b c d : Char) : Option Nat := do
  let p ← Hex.digitValue? a
  let q ← Hex.digitValue? b
  let r ← Hex.digitValue? c
  let s ← Hex.digitValue? d
  return ((p * 16 + q) * 16 + r) * 16 + s

def isHighSurrogate (unit : Nat) : Bool := 0xd800 ≤ unit ∧ unit < 0xdc00

def isLowSurrogate (unit : Nat) : Bool := 0xdc00 ≤ unit ∧ unit < 0xe000

/-- Resolves escapes; a surrogate has to be a high one followed by a low one. -/
def unescape {β : Type} (plain escaped : Char → List β) : RawText → Option (List β)
  | '\\' :: 'u' :: a :: b :: c :: d :: '\\' :: 'u' :: e :: f :: g :: h :: rest =>
      match unit? a b c d, unit? e f g h with
      | some unit, some next =>
          if isHighSurrogate unit then
            if isLowSurrogate next then
              let code := 0x10000 + (unit - 0xd800) * 1024 + (next - 0xdc00)
              (unescape plain escaped rest).map (escaped (Char.ofNat code) ++ ·)
            else none
          else if isLowSurrogate unit then none
          else
            (unescape plain escaped ('\\' :: 'u' :: e :: f :: g :: h :: rest)).map
              (escaped (Char.ofNat unit) ++ ·)
      | _, _ => none
  | '\\' :: 'u' :: a :: b :: c :: d :: rest =>
      match unit? a b c d with
      | some unit =>
          if isHighSurrogate unit || isLowSurrogate unit then none
          else (unescape plain escaped rest).map (escaped (Char.ofNat unit) ++ ·)
      | none => none
  | '\\' :: c :: rest =>
      match simpleEscape? c with
      | some target => (unescape plain escaped rest).map (escaped target ++ ·)
      | none => none
  | ['\\'] => none
  | c :: rest => (unescape plain escaped rest).map (plain c ++ ·)
  | [] => some []

namespace RawText

/-- The text of a document made of characters. -/
def text? (raw : RawText) : Option String :=
  (unescape (fun c => [c]) (fun c => [c]) raw).map String.ofList

/-- The text of a document made of bytes, each of them standing for itself. -/
def textOfBytes? (raw : RawText) : Option String :=
  (unescape (fun c => [UInt8.ofNat c.toNat]) (fun c => Utf8.encode (String.singleton c)) raw).bind
    Utf8.decode?

/-- Whether every escape stands for a character. -/
def resolves (raw : RawText) : Bool := (unescape (fun c => [c]) (fun c => [c]) raw).isSome

end RawText

/-- Resolves the names of an object's fields. -/
def fieldsByName? (text? : RawText → Option String) (fields : List (RawText × Value))
    : Option (List (String × Value)) :=
  fields.mapM fun (name, value) => (text? name).map fun name => (name, value)

/-- The field of a name if there is one; fails when there are several. -/
def unique? (name : String) (fields : List (String × Value)) : Option (Option Value) :=
  match fields.filter fun field => field.1 == name with
  | [] => some none
  | [field] => some (some field.2)
  | _ => none

end ImageVerification.Json
