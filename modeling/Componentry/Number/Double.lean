import Componentry.Number.Decimal

/-!
# Finite doubles

A finite double is kept as an exact number `± significand * 2 ^ exponent` in the
one form that the format of 64 bits has for it: 53 significant bits, or fewer at
the least exponent. A decimal number stands for the nearest double, and of two
nearest ones for the one with the even significand.
-/

namespace Componentry

/-- The significands and exponents of the finite doubles. -/
def Double.IsForm (significand : Nat) (exponent : Int) : Prop :=
  significand < Nat.pow 2 53 ∧ -1074 ≤ exponent ∧ exponent ≤ 971 ∧
    (Nat.pow 2 52 ≤ significand ∨ exponent = -1074)

instance (significand : Nat) (exponent : Int) :
    Decidable (Double.IsForm significand exponent) := by
  unfold Double.IsForm
  infer_instance

/-- The number `± significand * 2 ^ exponent` in the form of the finite doubles. -/
structure Double where
  negative : Bool
  significand : Nat
  exponent : Int
  form : Double.IsForm significand exponent
  deriving DecidableEq

namespace Double

/-- Zero, with either sign. -/
def zero (negative : Bool) : Double := ⟨negative, 0, -1074, by decide⟩

instance : Inhabited Double := ⟨zero false⟩

/-- Whether the number is zero, of either sign. -/
def isZero (x : Double) : Bool := x.significand == 0

/-- Numeric equality: the two zeros are equal, and every other double is equal to
itself alone. -/
def equal (x y : Double) : Bool := (x.isZero && y.isZero) || decide (x = y)

/-- The quotient rounded to the nearest natural number, a half to the even one. -/
def roundEven (numerator denominator : Nat) : Nat :=
  let quotient := numerator / denominator
  let twice := 2 * (numerator % denominator)
  if twice < denominator then quotient
  else if denominator < twice then quotient + 1
  else quotient + quotient % 2

/-- The ratio `numerator * 2 ^ power / denominator` as numerator and denominator. -/
def scaled (numerator denominator : Nat) (power : Int) : Nat × Nat :=
  if 0 ≤ power then (numerator * Nat.pow 2 power.toNat, denominator)
  else (numerator, denominator * Nat.pow 2 (-power).toNat)

/-- The exponent of the greatest power of two that a positive ratio reaches. -/
def binaryOrder (numerator denominator : Nat) : Int :=
  let guess := Int.ofNat numerator.log2 - Int.ofNat denominator.log2
  let (n, d) := scaled numerator denominator (-guess)
  if n < d then guess - 1 else guess

/-- The nearest double to a ratio, or nothing if it passes the largest one. -/
def nearest? (negative : Bool) (numerator denominator : Nat) : Option Double :=
  if numerator = 0 then some (zero negative)
  else
    let exponent := max (-1074) (binaryOrder numerator denominator - 52)
    let (n, d) := scaled numerator denominator (-exponent)
    let significand := roundEven n d
    let (significand, exponent) :=
      if significand = Nat.pow 2 53 then (Nat.pow 2 52, exponent + 1) else (significand, exponent)
    if form : IsForm significand exponent then some ⟨negative, significand, exponent, form⟩
    else none

/-- The nearest double to a decimal number, or nothing if it passes the largest
one. Numbers far outside the range are decided by their order of magnitude. -/
def ofDecimal? (number : Decimal) : Option Double :=
  let order := number.exponent + Int.ofNat (Numeral.ofNat number.significand).length
  if number.significand = 0 || order < -400 then some (zero number.negative)
  else if 400 < order then none
  else if 0 ≤ number.exponent then
    nearest? number.negative (number.significand * Nat.pow 10 number.exponent.toNat) 1
  else
    nearest? number.negative number.significand (Nat.pow 10 (-number.exponent).toNat)

/-- Read a text as a finite double. -/
def read? (text : List Char) : Option Double := (Decimal.read? text).bind ofDecimal?

/-- The magnitude as numerator and denominator. -/
def ratio (x : Double) : Nat × Nat := scaled x.significand 1 x.exponent

/-- The product rounded to the nearest double, or nothing if it passes the largest
one. -/
def times? (x y : Double) : Option Double :=
  nearest? (x.negative != y.negative) (x.ratio.1 * y.ratio.1) (x.ratio.2 * y.ratio.2)

/-- The quotient by a double that is not zero, rounded to the nearest double, or
nothing if it passes the largest one. -/
def dividedBy? (x y : Double) : Option Double :=
  nearest? (x.negative != y.negative) (x.ratio.1 * y.ratio.2) (x.ratio.2 * y.ratio.1)

/-- The nearest natural number to the magnitude, a half away from zero. -/
def roundedMagnitude (x : Double) : Nat :=
  let (n, d) := x.ratio
  (2 * n + d) / (2 * d)

end Double

end Componentry
