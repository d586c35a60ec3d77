import EntityGen.Number.Power

/-!
# Double-precision numbers

The finite, non-negative numbers of the binary64 format, held as an integer times a power of two, and
the rounding of an exact quotient to the nearest of them. Everything is exact arithmetic on naturals.
-/
namespace EntityGen.Number

/-- The quotient rounded to the nearest integer, a half going to the even neighbour. -/
def roundHalfEven (num den : Nat) : Nat :=
  let quotient := num / den
  let twice := 2 * (num % den)
  if twice < den then quotient
  else if den < twice then quotient + 1
  else if quotient % 2 == 0 then quotient else quotient + 1

/-- The number `mantissa * 2 ^ (power - 1074)`. -/
structure Binary64 where
  mantissa : Nat
  power : Nat
  deriving DecidableEq, Repr

namespace Binary64

/-- The offset between the stored power and the power of two. -/
def bias : Nat := 1074

/-- The greatest stored power of a finite number. -/
def maxPower : Nat := 971 + bias

/-- The numerator of the exact value. -/
def numerator (x : Binary64) : Nat :=
  if bias ≤ x.power then x.mantissa * twoTo (x.power - bias) else x.mantissa

/-- The denominator of the exact value. -/
def denominator (x : Binary64) : Nat := if bias ≤ x.power then 1 else twoTo (bias - x.power)

/-- `num / den` measured in units of `2 ^ (power - 1074)` and rounded. -/
def roundedAt (num den power : Nat) : Nat :=
  if bias ≤ power then roundHalfEven num (den * twoTo (power - bias))
  else roundHalfEven (num * twoTo (bias - power)) den

/-- The stored power of the unit in which `num / den` has 53 binary digits, or the least power. -/
def powerFor (num den : Nat) : Nat :=
  let digits := bias + num.log2
  let guess := digits - den.log2
  let atLeast := if bias ≤ guess then den * twoTo (guess - bias) ≤ num
    else den ≤ num * twoTo (bias - guess)
  (if atLeast then guess else guess - 1) - 52

/-- The nearest number to `num / den`, or `none` when that is out of range. -/
def ofRatio? (num den : Nat) : Option Binary64 :=
  if num == 0 then some ⟨0, 0⟩
  else
    let power := powerFor num den
    let mantissa := roundedAt num den power
    let (mantissa, power) := if mantissa == twoTo 53 then (twoTo 52, power + 1) else (mantissa, power)
    if maxPower < power then none else some ⟨mantissa, power⟩

/-- The nearest number to an integer. -/
def ofNat? (n : Nat) : Option Binary64 := ofRatio? n 1

/-- The rounded product. -/
def mul? (x y : Binary64) : Option Binary64 :=
  ofRatio? (x.numerator * y.numerator) (x.denominator * y.denominator)

/-- The rounded quotient by a number that is not zero. -/
def div? (x y : Binary64) : Option Binary64 :=
  ofRatio? (x.numerator * y.denominator) (x.denominator * y.numerator)

/-- The number is zero. -/
def isZero (x : Binary64) : Bool := x.mantissa == 0

end Binary64

end EntityGen.Number
