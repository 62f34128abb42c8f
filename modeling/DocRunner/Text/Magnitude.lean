/-!
# The range of floats

Floats are those of a binary format of 64 bits. All answers are exact and need no float.

* `roundToFloat n` : the float nearest to `n`, if floats had no upper end;
* `overflows digits exponent` : the number `digits * 10 ^ exponent` rounds to infinity;
* `scalesToInfinity digits exponent` : the product of the floats nearest to `digits` and to `10 ^ exponent`
  does. The two roundings before the last make a difference only next to the end of the range.
-/

namespace DocRunner.Text

/-- The binary digits of the significand of a float. -/
def significandBits : Nat := 53

/-- The least number that rounds to infinity. -/
def infinityBound : Nat := Nat.pow 2 1024 - Nat.pow 2 970

/-- The largest exponent of a power of ten that is in range. -/
def maxPowerOfTen : Nat := 308

/-- The nearest number with at most 53 binary digits in front of its trailing zeros. Of two that are equally
near, it is the one with the even significand. -/
def roundToFloat (n : Nat) : Nat :=
  if n.log2 < significandBits then n
  else
    let unit := Nat.pow 2 (n.log2 + 1 - significandBits)
    let significand := n / unit
    let rest := n % unit
    if unit < 2 * rest || (unit == 2 * rest && significand % 2 == 1) then (significand + 1) * unit
    else significand * unit

/-- Whether `digits * 10 ^ exponent` rounds to infinity. -/
def overflows (digits : Nat) (exponent : Int) : Bool :=
  if digits = 0 then false
  else if 0 ≤ exponent then maxPowerOfTen < exponent || infinityBound ≤ digits * Nat.pow 10 exponent.toNat
  else if digits.log2 < (-exponent).toNat then false
  else infinityBound * Nat.pow 10 (-exponent).toNat ≤ digits

/-- Whether the product of the floats nearest to `digits` and to `10 ^ exponent` rounds to infinity. A power of
ten with a negative exponent is divided by, which never leaves the range. -/
def scalesToInfinity (digits : Nat) (exponent : Int) : Bool :=
  if digits = 0 || exponent < 0 then false
  else maxPowerOfTen < exponent || infinityBound ≤ roundToFloat digits * roundToFloat (Nat.pow 10 exponent.toNat)

end DocRunner.Text
