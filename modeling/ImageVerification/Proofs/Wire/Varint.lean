import ImageVerification.Wire.Varint
import Mathlib.Algebra.Group.Nat.Defs

/-! Spellings of numbers in groups of seven bits: what is read back from them, and that the shortest
one is written.
-/

namespace ImageVerification.Wire

/-- Bytes that spell a number: seven of its bits each, and all but the last have the high bit. -/
inductive Spells : Nat → Bytes → Prop where
  | last {byte : UInt8} (unmarked : byte.toNat < 128) : Spells byte.toNat [byte]
  | more {byte : UInt8} {high : Nat} {rest : Bytes} (marked : 128 ≤ byte.toNat)
      (later : Spells high rest)
      : Spells (byte.toNat - 128 + 128 * high) (byte :: rest)

/-- A spelling that is as short as any other of the number. -/
structure Shortest (n : Nat) (bytes : Bytes) : Prop where
  spells : Spells n bytes
  least : ∀ other, Spells n other → bytes.length ≤ other.length

/-- A number of at most 64 bits that is spelled in at most ten bytes. -/
structure Varint (n : Nat) (bytes : Bytes) : Prop where
  spells : Spells n bytes
  short : bytes.length ≤ 10
  fits : n < Word.limit64

variable {n count : Nat} {bytes : Bytes}

theorem Spells.length_pos (spells : Spells n bytes) : 0 < bytes.length := by
  cases spells <;> exact Nat.succ_pos _

/-- A number is read back from any of its spellings, whatever comes after that. -/
theorem readVarint_of_spells (spells : Spells n bytes) (short : bytes.length ≤ count)
    (rest : Bytes)
    : readVarint count (bytes ++ rest) = some (n, rest) := by
  induction spells generalizing count with
  | last unmarked =>
      obtain ⟨count, rfl⟩ := Nat.exists_eq_add_one.mpr short
      exact if_pos unmarked
  | more marked later ih =>
      obtain ⟨count, rfl⟩ := Nat.exists_eq_add_one.mpr (Nat.lt_of_lt_of_le (Nat.succ_pos _) short)
      rw [List.cons_append, readVarint, if_neg (Nat.not_lt_of_le marked),
        ih (Nat.le_of_succ_le_succ short), Option.map_some]

/-- A varint is read back from the front of any bytes. -/
theorem Varint.decode (varint : Varint n bytes) (rest : Bytes)
    : decodeVarint (bytes ++ rest) = some (n, rest) := by
  rw [decodeVarint, readVarint_of_spells varint.spells varint.short rest]
  exact if_pos varint.fits

theorem Varint.length_pos (varint : Varint n bytes) : 0 < bytes.length := varint.spells.length_pos

theorem encodeVarint_of_lt (small : n < 128) : encodeVarint n = [UInt8.ofNat n] := by
  rw [encodeVarint, dif_pos small]

theorem encodeVarint_of_le (large : 128 ≤ n)
    : encodeVarint n = UInt8.ofNat (n % 128 + 128) :: encodeVarint (n / 128) := by
  rw [encodeVarint, dif_neg (Nat.not_lt_of_le large)]

theorem toNat_byte (small : n < 256) : (UInt8.ofNat n).toNat = n :=
  UInt8.toNat_ofNat_of_lt' small

/-- What is written spells the number; by strong induction on it, seven bits a byte. -/
theorem encodeVarint_spells (n : Nat) : Spells n (encodeVarint n) := by
  induction n using Nat.strongRecOn with
  | ind n ih =>
      by_cases small : n < 128
      · have byte : (UInt8.ofNat n).toNat = n := toNat_byte (Nat.lt_trans small (by decide))
        have unmarked : (UInt8.ofNat n).toNat < 128 := by rwa [byte]
        have spells := Spells.last unmarked
        rw [byte] at spells
        rwa [encodeVarint_of_lt small]
      · have large : 128 ≤ n := Nat.le_of_not_lt small
        have byte : (UInt8.ofNat (n % 128 + 128)).toNat = n % 128 + 128 := toNat_byte (by omega)
        have marked : 128 ≤ (UInt8.ofNat (n % 128 + 128)).toNat := by
          rw [byte]
          exact Nat.le_add_left _ _
        have spells := Spells.more marked (ih (n / 128) (by omega))
        rw [byte, Nat.add_sub_cancel, Nat.mod_add_div] at spells
        rwa [encodeVarint_of_le large]

/-- No spelling is shorter than the one that is written. -/
theorem Spells.encodeVarint_le (spells : Spells n bytes)
    : (encodeVarint n).length ≤ bytes.length := by
  induction spells with
  | last unmarked =>
      rw [encodeVarint_of_lt unmarked]
      exact Nat.le_refl 1
  | @more byte high rest marked later ih =>
      have bounded := byte.toNat_lt
      by_cases small : byte.toNat - 128 + 128 * high < 128
      · -- The number takes one byte, although this spelling of it goes on.
        rw [encodeVarint_of_lt small]
        exact Nat.succ_le_succ (Nat.zero_le _)
      · have shifted : (byte.toNat - 128 + 128 * high) / 128 = high := by omega
        rw [encodeVarint_of_le (Nat.le_of_not_lt small), shifted]
        exact Nat.succ_le_succ ih

/-- Nothing shorter spells it. -/
theorem encodeVarint_shortest (n : Nat) : Shortest n (encodeVarint n) :=
  ⟨encodeVarint_spells n, fun _ spells => spells.encodeVarint_le⟩

/-- Each byte takes seven bits. -/
theorem encodeVarint_length_le (bounded : n < 128 ^ (count + 1))
    : (encodeVarint n).length ≤ count + 1 := by
  induction count generalizing n with
  | zero => exact Nat.le_of_eq (congrArg List.length (encodeVarint_of_lt bounded))
  | succ count ih =>
      by_cases small : n < 128
      · rw [encodeVarint_of_lt small]
        exact Nat.succ_le_succ (Nat.zero_le _)
      · rw [encodeVarint_of_le (Nat.le_of_not_lt small)]
        exact Nat.succ_le_succ (ih (Nat.div_lt_of_lt_mul (by rwa [Nat.pow_succ'] at bounded)))

/-- A number of 64 bits is written as a varint. -/
theorem encodeVarint_varint (fits : n < Word.limit64) : Varint n (encodeVarint n) := by
  have bounded : n < 128 ^ (9 + 1) := Nat.lt_trans fits (by decide)
  exact ⟨encodeVarint_spells n, encodeVarint_length_le bounded, fits⟩

end ImageVerification.Wire
