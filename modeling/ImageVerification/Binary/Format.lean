/-! Binary floating-point formats: bit patterns as numbers, and rounding of exact quotients.

Without its sign a pattern is `scale * 2 ^ fraction + significand`, so the next larger magnitude
has the next larger pattern. Rounding relies on that: a significand that rounds up to twice its
width is the least one of the next scale.
-/

namespace ImageVerification.Binary

/-- The whole number nearest to a quotient; a half goes to the even neighbour. -/
def roundHalfEven (num den : Nat) : Nat :=
  let quotient := num / den
  let twice := 2 * (num % den)
  if twice < den then quotient
  else if den < twice then quotient + 1
  else quotient + quotient % 2

/-- The widths of the fraction and exponent fields. -/
structure Format where
  fraction : Nat
  exponents : Nat
deriving DecidableEq

/-- What a bit pattern stands for; `finite` is `significand * 2 ^ scale` least positive numbers. -/
inductive Value where
  | nan
  | infinity (negative : Bool)
  | finite (negative : Bool) (significand scale : Nat)
deriving DecidableEq

namespace Format

def single : Format := ⟨23, 8⟩

def double : Format := ⟨52, 11⟩

/-- The least positive number is `2 ^ -unitExponent`. -/
def unitExponent (format : Format) : Nat :=
  Nat.pow 2 (format.exponents - 1) + format.fraction - 2

def signBit (format : Format) : Nat :=
  Nat.pow 2 (format.fraction + format.exponents)

def infinityBits (format : Format) : Nat :=
  (Nat.pow 2 format.exponents - 1) * Nat.pow 2 format.fraction

def nanBits (format : Format) : Nat :=
  format.infinityBits + Nat.pow 2 (format.fraction - 1)

def value (format : Format) (bits : Nat) : Value :=
  let negative := decide (bits / format.signBit % 2 = 1)
  let exponent := bits / Nat.pow 2 format.fraction % Nat.pow 2 format.exponents
  let low := bits % Nat.pow 2 format.fraction
  if exponent = Nat.pow 2 format.exponents - 1 then
    if low = 0 then .infinity negative else .nan
  else if exponent = 0 then .finite negative low 0
  else .finite negative (Nat.pow 2 format.fraction + low) (exponent - 1)

def withSign (format : Format) (negative : Bool) (magnitude : Nat) : Nat :=
  if negative then format.signBit + magnitude else magnitude

/-- The pattern of the magnitude nearest to `num / den` least positive numbers; what is too large
becomes infinity. -/
def roundUnits (format : Format) (num den : Nat) : Nat :=
  let scale := (num / den).log2 - format.fraction
  min (scale * Nat.pow 2 format.fraction + roundHalfEven num (den * Nat.pow 2 scale))
    format.infinityBits

/-- The pattern of the number nearest to `± num / den`. -/
def ofQuotient (format : Format) (negative : Bool) (num den : Nat) : Nat :=
  format.withSign negative (format.roundUnits (num * Nat.pow 2 format.unitExponent) den)

/-- The pattern of a value of another format, rounded. -/
def ofValue (format : Format) (source : Format) : Value → Nat
  | .nan => format.nanBits
  | .infinity negative => format.withSign negative format.infinityBits
  | .finite negative significand scale =>
      format.ofQuotient negative (significand * Nat.pow 2 scale) (Nat.pow 2 source.unitExponent)

end Format

namespace Value

/-- A finite value in least positive numbers. -/
def units (negative : Bool) (significand scale : Nat) : Int :=
  let magnitude : Int := significand * Nat.pow 2 scale
  if negative then -magnitude else magnitude

end Value

namespace Format

/-- An exact sum of zero is negative only when both operands are. -/
def add (format : Format) : Value → Value → Nat
  | .nan, _ => format.nanBits
  | _, .nan => format.nanBits
  | .infinity n, .infinity m =>
      if n = m then format.withSign n format.infinityBits else format.nanBits
  | .infinity n, _ => format.withSign n format.infinityBits
  | _, .infinity m => format.withSign m format.infinityBits
  | .finite n a s, .finite m b t =>
      let sum := Value.units n a s + Value.units m b t
      if sum = 0 then format.withSign (n && m) 0
      else format.withSign (sum < 0) (format.roundUnits sum.natAbs 1)

def mul (format : Format) : Value → Value → Nat
  | .nan, _ => format.nanBits
  | _, .nan => format.nanBits
  | .infinity n, .infinity m => format.withSign (n != m) format.infinityBits
  | .infinity n, .finite m b _ =>
      if b = 0 then format.nanBits else format.withSign (n != m) format.infinityBits
  | .finite n a _, .infinity m =>
      if a = 0 then format.nanBits else format.withSign (n != m) format.infinityBits
  | .finite n a s, .finite m b t =>
      format.withSign (n != m)
        (format.roundUnits (a * Nat.pow 2 s * (b * Nat.pow 2 t)) (Nat.pow 2 format.unitExponent))

def div (format : Format) : Value → Value → Nat
  | .nan, _ => format.nanBits
  | _, .nan => format.nanBits
  | .infinity _, .infinity _ => format.nanBits
  | .infinity n, .finite m _ _ => format.withSign (n != m) format.infinityBits
  | .finite n _ _, .infinity m => format.withSign (n != m) 0
  | .finite n a s, .finite m b t =>
      if b = 0 then
        if a = 0 then format.nanBits else format.withSign (n != m) format.infinityBits
      else
        format.withSign (n != m)
          (format.roundUnits (a * Nat.pow 2 s * Nat.pow 2 format.unitExponent) (b * Nat.pow 2 t))

end Format

end ImageVerification.Binary
