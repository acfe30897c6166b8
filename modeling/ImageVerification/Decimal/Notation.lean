import ImageVerification.Decimal.Shortest

/-! How decimals are written: positional between two exponents, scientific outside. Natural numbers
are read too.
-/

namespace ImageVerification.Decimal

def digits (n : Nat) : List Char := Nat.toDigits 10 n

/-- The number below a limit that is written with decimal digits and perhaps a plus sign. -/
def readBelow? (limit : Nat) (cs : List Char) : Option Nat :=
  let ds :=
    match cs with
    | '+' :: rest => rest
    | _ => cs
  let value := ds.foldl (fun n d => n * 10 + (d.toNat - 48)) 0
  if ds.isEmpty || !ds.all Char.isDigit || limit ≤ value then none else some value

/-- Removes the zeros at the end of a digit list. -/
def trimZeros (cs : List Char) : List Char :=
  (cs.reverse.dropWhile (· == '0')).reverse

/-- The exponents of the first digit that are written positionally. -/
structure Layout where
  least : Int
  greatest : Int

namespace Layout

def single : Layout := ⟨-6, 12⟩

def double : Layout := ⟨-5, 15⟩

/-- Positional text of the digits `ds`, of which the first has the given exponent. -/
def positional (ds : List Char) (exponent : Int) : List Char :=
  if exponent < 0 then
    '0' :: '.' :: List.replicate ((-exponent).toNat - 1) '0' ++ ds
  else
    let count := exponent.toNat + 1
    if ds.length ≤ count then
      ds ++ List.replicate (count - ds.length) '0' ++ ['.', '0']
    else
      ds.take count ++ '.' :: ds.drop count

def scientific (ds : List Char) (exponent : Int) : List Char :=
  let mark := 'e' :: (if exponent < 0 then '-' else '+') :: digits exponent.natAbs
  match ds with
  | [d] => d :: mark
  | d :: rest => d :: '.' :: rest ++ mark
  | [] => mark

def render (layout : Layout) (x : Scientific) : List Char :=
  let all := digits x.significand
  let exponent := x.exponent + (all.length : Int) - 1
  let ds := trimZeros all
  if layout.least ≤ exponent ∧ exponent ≤ layout.greatest then positional ds exponent
  else scientific ds exponent

end Layout

/-- The text of a finite value, or nothing for infinities and for what is not a number. -/
def renderValue? (format : Binary.Format) (layout : Layout) : Binary.Value → Option (List Char)
  | .finite negative significand scale =>
      let body :=
        if significand = 0 then ['0', '.', '0']
        else layout.render (shortest format significand scale)
      some (if negative then '-' :: body else body)
  | _ => none

/-- The text of a value with a fixed number of decimal places; a half goes to the even digit. -/
def renderFixed (format : Binary.Format) (places : Nat) : Binary.Value → List Char
  | .nan => ['N', 'a', 'N']
  | .infinity negative => if negative then ['-', 'i', 'n', 'f'] else ['i', 'n', 'f']
  | .finite negative significand scale =>
      let scaled :=
        Binary.roundHalfEven (significand * Nat.pow 2 scale * Nat.pow 10 places)
          (Nat.pow 2 format.unitExponent)
      let low := digits (scaled % Nat.pow 10 places)
      let body :=
        digits (scaled / Nat.pow 10 places)
          ++ '.' :: List.replicate (places - low.length) '0' ++ low
      if negative then '-' :: body else body

end ImageVerification.Decimal

namespace ImageVerification

def Binary32.text? (x : Binary32) : Option (List Char) :=
  Decimal.renderValue? Binary.Format.single Decimal.Layout.single x.value

def Binary64.text? (x : Binary64) : Option (List Char) :=
  Decimal.renderValue? Binary.Format.double Decimal.Layout.double x.value

end ImageVerification
