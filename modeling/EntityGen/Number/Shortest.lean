import EntityGen.Number.Binary64

/-!
# The shortest decimal of a number

`shortest` finds the fewest digits that read back as the number, and among those the nearest. The
writers below lay such digits out; each has its rule for a number halfway between two of them.
-/
namespace EntityGen.Number

/-- Where a number halfway between two decimals goes. -/
inductive Halfway
  /-- To the one whose last digit is even. -/
  | toEven
  /-- To the greater one. -/
  | up
  deriving DecidableEq, Repr

/-- The decimal `digits * 10 ^ (power - 400)`. -/
structure Decimal where
  digits : Nat
  power : Nat
  deriving DecidableEq, Repr

namespace Decimal

/-- The offset between the stored power and the power of ten. -/
def bias : Nat := 400

/-- The exact quotient `a / b` times `10 ^ (bias - power)`, as a numerator and a denominator. -/
def scaled (num den power : Nat) : Nat × Nat :=
  if bias ≤ power then (num, den * tenTo (power - bias)) else (num * tenTo (bias - power), den)

end Decimal

namespace Binary64

/-- The lower end of the interval of reals that round to `x`, over `4 * denominator`. Below a power of
two the numbers lie twice as close. -/
def lowerEnd (x : Binary64) : Nat :=
  let unit := if bias ≤ x.power then twoTo (x.power - bias) else 1
  if x.mantissa == twoTo 52 && x.power != 0 then 4 * x.numerator - unit else 4 * x.numerator - 2 * unit

/-- The upper end of the interval of reals that round to `x`, over `4 * denominator`. -/
def upperEnd (x : Binary64) : Nat :=
  let unit := if bias ≤ x.power then twoTo (x.power - bias) else 1
  4 * x.numerator + 2 * unit

/-- Whether a decimal reads back as `x`; the ends of the interval count when the mantissa is even. -/
def readsBack (x : Binary64) (d : Decimal) : Bool :=
  let value := if Decimal.bias ≤ d.power then d.digits * tenTo (d.power - Decimal.bias) else d.digits
  let scale := if Decimal.bias ≤ d.power then 1 else tenTo (Decimal.bias - d.power)
  let middle := 4 * value * x.denominator
  let low := x.lowerEnd * scale
  let high := x.upperEnd * scale
  if x.mantissa % 2 == 0 then low ≤ middle && middle ≤ high else low < middle && middle < high

/-- The decimal neighbours of `x` on the grid of a power of ten, the one to be preferred first. -/
def neighbours (halfway : Halfway) (x : Binary64) (power : Nat) : List Decimal :=
  let (num, den) := Decimal.scaled x.numerator x.denominator power
  let floor := num / den
  let below : Decimal := ⟨floor, power⟩
  let above : Decimal := ⟨floor + 1, power⟩
  let twice := 2 * (num % den)
  let staysBelow := twice < den || (twice == den && halfway == .toEven && floor % 2 == 0)
  if staysBelow then [below, above] else [above, below]

/-- The stored decimal power of the first digit of `x`. -/
def leadingPower (x : Binary64) : Nat :=
  let rec search : Nat → Nat
    | 0 => 0
    | power + 1 =>
      let (num, den) := Decimal.scaled x.numerator x.denominator (power + 1)
      if den ≤ num then power + 1 else search power
  search 720

/-- The coarsest grid, from `power` down, on which a neighbour reads back. -/
def shortestFrom (halfway : Halfway) (x : Binary64) : Nat → Decimal
  | 0 => ⟨0, 0⟩
  | power + 1 =>
    match (x.neighbours halfway (power + 1)).find? x.readsBack with
    | some d => d
    | none => shortestFrom halfway x power

/-- The shortest decimal that reads back as `x`. -/
def shortest (halfway : Halfway) (x : Binary64) : Decimal :=
  if x.isZero then ⟨0, Decimal.bias⟩ else x.shortestFrom halfway x.leadingPower

end Binary64

/-- The decimal digits of a natural number. -/
def digitsOf (n : Nat) : List Char := Nat.toDigits 10 n

/-- Digits with a point after the first `places` of them; at least one digit stands on either side. -/
def positional (digits : List Char) (places : Int) : List Char :=
  if places ≤ 0 then ['0', '.'] ++ List.replicate (-places).toNat '0' ++ digits
  else if digits.length ≤ places.toNat then
    digits ++ List.replicate (places.toNat - digits.length) '0' ++ ['.', '0']
  else digits.take places.toNat ++ ['.'] ++ digits.drop places.toNat

namespace Decimal

/-- The digits without zeros at the end, and the number of digits before the point. -/
def layout (d : Decimal) : List Char × Int :=
  let digits := digitsOf d.digits
  let trimmed := (digits.reverse.dropWhile (· == '0')).reverse
  (if trimmed.isEmpty then ['0'] else trimmed, (d.power : Int) - bias + digits.length)

end Decimal

/-- A sign, when the number is negative. -/
def signed (negative : Bool) (digits : List Char) : String :=
  String.ofList (if negative then '-' :: digits else digits)

/-- The shortest decimal, always in positional form: `100.0`, `0.001`. A half goes up. -/
def plainText (negative : Bool) (x : Binary64) : String :=
  let (digits, places) := (x.shortest .up).layout
  signed negative (positional digits (if x.isZero then 1 else places))

/-- An exponent with its sign: `e+20`, `e-7`. -/
def exponentText (exponent : Int) : List Char :=
  'e' :: (if 0 ≤ exponent then '+' else '-') :: digitsOf exponent.natAbs

/-- The shortest decimal, in positional form while the point is near the digits and with an exponent
otherwise: `100.0`, `1e+20`, `1.5e-7`. A half goes to the even digit. -/
def compactText (negative : Bool) (x : Binary64) : String :=
  let (digits, places) := (x.shortest .toEven).layout
  if x.isZero then signed negative ['0', '.', '0']
  else if -5 < places && places ≤ 16 then signed negative (positional digits places)
  else
    let exponent := exponentText (places - 1)
    match digits with
    | [] => signed negative ['0', '.', '0']
    | [d] => signed negative (d :: exponent)
    | d :: rest => signed negative (d :: '.' :: rest ++ exponent)

/-- The exact value rounded to two places, a half going to the even digit. -/
def hundredths (negative : Bool) (x : Binary64) : String :=
  let digits := digitsOf (roundHalfEven (100 * x.numerator) x.denominator)
  let padded := List.replicate (3 - digits.length) '0' ++ digits
  signed negative (padded.take (padded.length - 2) ++ ['.'] ++ padded.drop (padded.length - 2))

end EntityGen.Number
