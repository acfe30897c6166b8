import ImageVerification.Binary.Format

/-! Numbers of 32 and 64 bits: patterns together with the arithmetic the library needs. -/

namespace ImageVerification

structure Binary32 where
  bits : UInt32
deriving DecidableEq

structure Binary64 where
  bits : UInt64
deriving DecidableEq

open Binary

namespace Binary32

def ofBits (bits : Nat) : Binary32 := ⟨UInt32.ofNat bits⟩

def value (x : Binary32) : Value := Format.single.value x.bits.toNat

def isFinite (x : Binary32) : Bool :=
  match x.value with
  | .finite .. => true
  | _ => false

def isNaN (x : Binary32) : Bool := x.value = .nan

def zero : Binary32 := ⟨0⟩

/-- Both zeros. -/
def isZero (x : Binary32) : Bool := x.bits &&& 0x7fffffff == 0

/-- Exact: every number of 32 bits is one of 64 bits. -/
def widen (x : Binary32) : Binary64 :=
  ⟨UInt64.ofNat (Format.double.ofValue Format.single x.value)⟩

def ofNat (n : Nat) : Binary32 := ofBits (Format.single.ofQuotient false n 1)

def ofInt (n : Int) : Binary32 := ofBits (Format.single.ofQuotient (n < 0) n.natAbs 1)

end Binary32

namespace Binary64

def ofBits (bits : Nat) : Binary64 := ⟨UInt64.ofNat bits⟩

def value (x : Binary64) : Value := Format.double.value x.bits.toNat

def isNaN (x : Binary64) : Bool := x.value = .nan

def isInfinite (x : Binary64) : Bool :=
  match x.value with
  | .infinity _ => true
  | _ => false

def zero : Binary64 := ⟨0⟩

def negativeZero : Binary64 := ⟨0x8000000000000000⟩

/-- Both zeros. -/
def isZero (x : Binary64) : Bool := x.bits &&& 0x7fffffffffffffff == 0

def neg (x : Binary64) : Binary64 := ⟨x.bits ^^^ 0x8000000000000000⟩

def ofQuotient (num den : Nat) : Binary64 := ofBits (Format.double.ofQuotient false num den)

def ofNat (n : Nat) : Binary64 := ofQuotient n 1

def ofInt (n : Int) : Binary64 := ofBits (Format.double.ofQuotient (n < 0) n.natAbs 1)

def add (x y : Binary64) : Binary64 := ofBits (Format.double.add x.value y.value)

def mul (x y : Binary64) : Binary64 := ofBits (Format.double.mul x.value y.value)

def div (x y : Binary64) : Binary64 := ofBits (Format.double.div x.value y.value)

instance : Add Binary64 := ⟨add⟩

instance : Mul Binary64 := ⟨mul⟩

instance : Div Binary64 := ⟨div⟩

/-- The nearest number of 32 bits; what is too large becomes infinity. -/
def narrow (x : Binary64) : Binary32 :=
  ⟨UInt32.ofNat (Format.single.ofValue Format.double x.value)⟩

end Binary64

end ImageVerification
