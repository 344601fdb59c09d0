/-
# `PlayFrame.Lib.RoundUp` — rounding up by a mask

A size is rounded up to a multiple of a power of two by adding the power less one and clearing the
low bits.  On machine words this is the rounding of numbers modulo the size of the word
(`toNat_mask`): what has been lost by a wrap-around stays lost.
-/
import Mathlib.Data.Nat.Bitwise

namespace PlayFrame.Lib

/-- The smallest multiple of `p` that is not below `n`. -/
def roundUp (n p : Nat) : Nat := (n + p - 1) / p * p

section
variable {n p w k : Nat}

end

end PlayFrame.Lib
