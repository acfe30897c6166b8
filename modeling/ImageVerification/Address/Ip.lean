import ImageVerification.Decimal.Notation
import ImageVerification.Encoding.Hex
import ImageVerification.Text.Quoted

/-! Internet addresses and their text. -/

namespace ImageVerification

/-- Four numbers of 8 bits, or eight numbers of 16 bits. -/
inductive IpAddress where
  | v4 (octets : List Nat)
  | v6 (groups : List Nat)
deriving DecidableEq

namespace IpAddress

def unspecified : IpAddress := v4 [0, 0, 0, 0]

namespace Reader

/-- A decimal number of 8 bits without zeros in front. -/
def octet? (cs : List Char) : Option (Nat × List Char) :=
  let ds := cs.takeWhile Char.isDigit
  let value := ds.foldl (fun n d => n * 10 + (d.toNat - 48)) 0
  if ds.isEmpty || 3 < ds.length || (1 < ds.length && ds.head? == some '0') || 255 < value then none
  else some (value, cs.drop ds.length)

/-- Numbers separated by dots. -/
def octets? : Nat → List Char → Option (List Nat × List Char)
  | 0, cs => some ([], cs)
  | 1, cs => (octet? cs).map fun (value, rest) => ([value], rest)
  | count + 1, cs =>
      match octet? cs with
      | some (value, '.' :: rest) =>
          (octets? count rest).map fun (values, rest) => (value :: values, rest)
      | _ => none

def isHexDigit (c : Char) : Bool := (Encoding.Hex.digitValue? c).isSome

/-- A hexadecimal number of at most four digits. -/
def group? (cs : List Char) : Option (Nat × List Char) :=
  let ds := cs.takeWhile isHexDigit
  if ds.isEmpty || 4 < ds.length then none
  else
    some (ds.foldl (fun n d => n * 16 + (Encoding.Hex.digitValue? d).getD 0) 0, cs.drop ds.length)

/-- The text after a colon in front of every group but the first. -/
def afterColon (first : Bool) (cs : List Char) : Option (List Char) :=
  if first then some cs
  else
    match cs with
    | ':' :: rest => some rest
    | _ => none

/-- Up to `count` groups; the last two may be written as four octets, which end the run. The result
tells whether they were. -/
def groups (first : Bool) : Nat → List Char → List Nat × Bool × List Char
  | 0, cs => ([], false, cs)
  | count + 1, cs =>
      match afterColon first cs with
      | none => ([], false, cs)
      | some rest =>
          match (if 0 < count then octets? 4 rest else none) with
          | some ([a, b, c, d], rest) => ([a * 256 + b, c * 256 + d], true, rest)
          | _ =>
              match group? rest with
              | none => ([], false, cs)
              | some (value, rest) =>
                  let (values, dotted, rest) := groups false count rest
                  (value :: values, dotted, rest)

/-- Two colons stand for at least one group of zero. -/
def v6? (cs : List Char) : Option (List Nat × List Char) :=
  let (head, dotted, rest) := groups true 8 cs
  if head.length = 8 then some (head, rest)
  else if dotted then none
  else
    match rest with
    | ':' :: ':' :: rest =>
        let (tail, _, rest) := groups true (7 - head.length) rest
        some (head ++ List.replicate (8 - head.length - tail.length) 0 ++ tail, rest)
    | _ => none

end Reader

open Reader in
def parse? (text : String) : Option IpAddress :=
  match octets? 4 text.toList with
  | some (octets, []) => some (v4 octets)
  | _ =>
      match v6? text.toList with
      | some (groups, []) => some (v6 groups)
      | _ => none

def renderOctets (octets : List Nat) : List Char :=
  ['.'].intercalate (octets.map Decimal.digits)

def renderGroups (groups : List Nat) : List Char :=
  [':'].intercalate (groups.map Text.hexDigits)

/-- The start and the length of the first longest run of zeros, from a position on. -/
def longestZeros (position : Nat) : List Nat → Nat × Nat
  | [] => (position, 0)
  | group :: rest =>
      let here := ((group :: rest).takeWhile (· == 0)).length
      let (start, length) := longestZeros (position + 1) rest
      if 0 < here ∧ length ≤ here then (position, here) else (start, length)

/-- A run of at least two zeros is left out, and addresses that stand for one of four octets show
it. -/
def render : IpAddress → List Char
  | v4 octets => renderOctets octets
  | v6 [0, 0, 0, 0, 0, 65535, a, b] =>
      "::ffff:".toList ++ renderOctets [a / 256, a % 256, b / 256, b % 256]
  | v6 groups =>
      let (start, length) := longestZeros 0 groups
      if length < 2 then renderGroups groups
      else
        renderGroups (groups.take start) ++ "::".toList
          ++ renderGroups (groups.drop (start + length))

end IpAddress

/-- An address with a port, as clients and listeners have one. -/
structure SocketAddress where
  host : IpAddress
  port : Nat
deriving DecidableEq

namespace SocketAddress

def renderWith (address : SocketAddress) (port : List Char) : List Char :=
  match address.host with
  | .v4 octets => IpAddress.renderOctets octets ++ ':' :: port
  | .v6 groups => '[' :: (IpAddress.v6 groups).render ++ ']' :: ':' :: port

def render (address : SocketAddress) : List Char :=
  address.renderWith (Decimal.digits address.port)

/-- The host of a text that has a port after its last colon. -/
def parse? (text : String) : Option SocketAddress :=
  let back := text.toList.reverse
  let port := (back.takeWhile (· != ':')).reverse
  let front := ((back.dropWhile (· != ':')).drop 1).reverse
  let host? : Option IpAddress :=
    match front with
    | '[' :: rest =>
        if rest.getLast? = some ']' then IpAddress.parse? (String.ofList rest.dropLast) else none
    | _ => IpAddress.parse? (String.ofList front)
  if port.isEmpty || !port.all Char.isDigit then none
  else host?.map fun host => ⟨host, port.foldl (fun n d => n * 10 + (d.toNat - 48)) 0⟩

end SocketAddress

end ImageVerification
