/-!
# Whole numbers of 64 bits

The bounds of the whole numbers that fit 64 bits, with a sign or without. They are written out as
numerals, so that they mean the same wherever they are read.
-/

namespace DataMart.Word

/-- The number that follows the greatest one of 64 bits with a sign. -/
def signedEnd : Nat := 9223372036854775808

/-- The number that follows the greatest one of 64 bits without a sign. -/
def unsignedEnd : Nat := 18446744073709551616

/-- Whether a number fits 64 bits with a sign. -/
def fitsSigned (n : Int) : Bool := -(signedEnd : Int) ≤ n && n < (signedEnd : Int)

end DataMart.Word
