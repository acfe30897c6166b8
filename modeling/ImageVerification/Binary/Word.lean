/-! How many numbers words of so many bits hold. -/

namespace ImageVerification.Word

abbrev limit31 : Nat := 2147483648

abbrev limit32 : Nat := 4294967296

abbrev limit63 : Nat := 9223372036854775808

abbrev limit64 : Nat := 18446744073709551616

end ImageVerification.Word
