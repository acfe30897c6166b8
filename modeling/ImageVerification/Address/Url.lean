import ImageVerification.Address.Ip
import ImageVerification.Text.Blank

/-! Addresses of services as URLs: a scheme, a host and a path. -/

namespace ImageVerification

structure Url where
  scheme : String
  host : Option String
  path : List Char
deriving DecidableEq

namespace Url

inductive Fault where
  | relative
  | invalidPort
  | invalidHost
  | invalidIpAddress
deriving DecidableEq

def Fault.text : Fault → String
  | .relative => "relative URL without a base"
  | .invalidPort => "invalid port number"
  | .invalidHost => "invalid domain character"
  | .invalidIpAddress => "invalid IPv6 address"

def isSchemeChar (c : Char) : Bool := c.isAlphanum || c == '+' || c == '-' || c == '.'

/-- Control characters and spaces around a URL, and line breaks and tabs inside it, do not count. -/
def clean (text : String) : List Char :=
  let isOuter (c : Char) : Bool := c.toNat ≤ 32
  let trimmed := ((text.toList.dropWhile isOuter).reverse.dropWhile isOuter).reverse
  trimmed.filter fun c => c != '\t' && c != '\n' && c != '\r'

/-- The scheme in front of a colon, which starts with a letter, and what follows. -/
def splitScheme? (cs : List Char) : Option (List Char × List Char) :=
  let scheme := cs.takeWhile isSchemeChar
  match cs.dropWhile isSchemeChar with
  | ':' :: rest => if scheme.head?.any Char.isAlpha then some (scheme, rest) else none
  | _ => none

def isHostEnd (c : Char) : Bool := c == '/' || c == '?' || c == '#'

/-- The part after the last at sign. -/
def withoutUser (authority : List Char) : List Char :=
  (authority.reverse.takeWhile (· != '@')).reverse

def isForbidden (c : Char) : Bool :=
  c.toNat = 0 || " <>\\^|[]".toList.contains c

def checkPort (port : List Char) : Except Fault Unit :=
  let value := port.foldl (fun n d => n * 10 + (d.toNat - 48)) 0
  if port.all Char.isDigit && value < 65536 then .ok () else .error .invalidPort

/-- The host of an authority, without its port. -/
def readHost (authority : List Char) : Except Fault (List Char) :=
  match authority with
  | '[' :: rest =>
      let address := rest.takeWhile (· != ']')
      match rest.dropWhile (· != ']') with
      | ']' :: after =>
          match IpAddress.parse? (String.ofList address), after with
          | some (.v6 _), [] => .ok address
          | some (.v6 _), ':' :: port => (checkPort port).map fun _ => address
          | _, _ => .error .invalidIpAddress
      | _ => .error .invalidIpAddress
  | _ =>
      let name := authority.takeWhile (· != ':')
      if name.any isForbidden then .error .invalidHost
      else (checkPort ((authority.dropWhile (· != ':')).drop 1)).map fun _ => name

def parse (text : String) : Except Fault Url :=
  match splitScheme? (clean text) with
  | none => .error .relative
  | some (scheme, '/' :: '/' :: rest) => do
      let name ← readHost (withoutUser (rest.takeWhile fun c => !isHostEnd c))
      return {
        scheme := Text.lower (String.ofList scheme)
        host := if name.isEmpty then none else some (String.ofList name)
        path := (rest.dropWhile fun c => !isHostEnd c).takeWhile fun c => c != '?' && c != '#'
      }
  | some (scheme, rest) =>
      .ok ⟨Text.lower (String.ofList scheme), none, rest.takeWhile fun c => c != '?' && c != '#'⟩

end Url

end ImageVerification
