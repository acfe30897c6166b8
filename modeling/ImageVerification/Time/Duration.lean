import ImageVerification.Binary.Word

/-! Spans of time in whole nanoseconds, with as many whole seconds as fit 64 bits.

An instant is the number of nanoseconds since the clock started.
-/

namespace ImageVerification

abbrev Instant := Nat

structure Duration where
  nanos : Nat
  nanos_lt : nanos < Word.limit64 * 1000000000
deriving DecidableEq

namespace Duration

def zero : Duration := ⟨0, by decide⟩

def ofNanos? (nanos : Nat) : Option Duration :=
  if h : nanos < Word.limit64 * 1000000000 then some ⟨nanos, h⟩ else none

/-- Fails when the product has more seconds than fit. -/
def mul? (d : Duration) (factor : Nat) : Option Duration := ofNanos? (d.nanos * factor)

def min (d e : Duration) : Duration := if d.nanos ≤ e.nanos then d else e

def seconds (d : Duration) : Nat := d.nanos / 1000000000

def subsecondNanos (d : Duration) : Nat := d.nanos % 1000000000

def millis (d : Duration) : Nat := d.nanos / 1000000

end Duration

end ImageVerification
