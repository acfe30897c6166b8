import ImageVerification.Binary.Number
import ImageVerification.Binary.Word
import ImageVerification.Json.Basic

/-! The numbers that literals stand for.

Whole numbers of 64 bits are exact. All others are read with the digits that fit 64 bits, rounded
once, and then scaled by one multiplication or division with a power of ten, which rounds again.
-/

namespace ImageVerification.Json

inductive Number where
  | natural (n : Nat)
  | negative (n : Nat)
  | float (x : Binary64)
deriving DecidableEq

namespace Number

def wordLimit : Nat := Word.limit64

def exponentLimit : Nat := Word.limit31

def digitOf (c : Char) : Nat := c.toNat - 48

/-- Takes digits into the significand while it fits 64 bits; the digits after that are returned. -/
def accumulate (significand : Nat) : List Char → Nat × List Char
  | [] => (significand, [])
  | d :: rest =>
      let next := significand * 10 + digitOf d
      if next < wordLimit then accumulate next rest else (significand, d :: rest)

def powerOfTen (exponent : Nat) : Binary64 := Binary64.ofNat (Nat.pow 10 exponent)

/-- The greatest power of ten in range. -/
def maxPower : Nat := 308

/-- `significand * 10 ^ exponent`, or nothing when it is out of range. -/
def scale? (significand : Nat) (exponent : Int) : Option Binary64 :=
  let x := Binary64.ofNat significand
  let steps := exponent.natAbs
  if 0 ≤ exponent then
    if steps ≤ maxPower then
      let y := x * powerOfTen steps
      if y.isInfinite then none else some y
    else if significand = 0 then some x else none
  else if steps ≤ maxPower then some (x / powerOfTen steps)
  else if steps ≤ 2 * maxPower then
    some (x / powerOfTen maxPower / powerOfTen (steps - maxPower))
  else some Binary64.zero

def clampExponent (exponent : Int) : Int :=
  max (-2147483648) (min exponent 2147483647)

def naturalOf (ds : List Char) : Nat := ds.foldl (fun n d => n * 10 + digitOf d) 0

/-- Applies a written exponent to a significand scaled so far by `start`. -/
def withExponent? (significand : Nat) (start : Int) : Option (Bool × List Char) → Option Binary64
  | none => scale? significand start
  | some (below, ds) =>
      let size := naturalOf ds
      if size < exponentLimit then
        scale? significand (clampExponent (if below then start - size else start + size))
      else if below || significand = 0 then some Binary64.zero
      else none

def magnitude? (literal : Literal) : Option Binary64 :=
  let (significand, dropped) := accumulate 0 literal.whole
  match literal.fraction with
  | none => withExponent? significand dropped.length literal.exponent
  | some ds =>
      let (significand, unread) := accumulate significand ds
      let start : Int := (dropped.length : Int) - ((ds.length - unread.length : Nat) : Int)
      withExponent? significand start literal.exponent

def float? (literal : Literal) : Option Number :=
  (magnitude? literal).map fun x => .float (if literal.negative then x.neg else x)

/-- The number of a literal, or nothing when it is out of range. -/
def ofLiteral? (literal : Literal) : Option Number :=
  if literal.fraction.isNone && literal.exponent.isNone then
    let n := naturalOf literal.whole
    if literal.negative then
      if 0 < n ∧ n ≤ Word.limit63 then some (.negative n) else float? literal
    else if n < wordLimit then some (.natural n)
    else float? literal
  else float? literal

/-- The digits after the one that takes a number out of range. -/
def digitsAfterLimit (limit n : Nat) : List Char → List Char
  | [] => []
  | d :: rest =>
      let next := n * 10 + digitOf d
      if next < limit then digitsAfterLimit limit next rest else rest

/-- Whether reading stops inside the literal, at an exponent that can only be out of range. -/
def stopsEarly (literal : Literal) : Bool :=
  match literal.exponent with
  | some (false, ds) => !(digitsAfterLimit exponentLimit 0 ds).isEmpty
  | _ => false

/-- Rounded to 32 bits: whole numbers directly, all others from 64 bits. -/
def toBinary32 : Number → Binary32
  | .natural n => Binary32.ofNat n
  | .negative n => Binary32.ofInt (-n)
  | .float x => x.narrow

end Number

end ImageVerification.Json
