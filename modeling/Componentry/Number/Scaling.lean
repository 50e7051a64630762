import Componentry.Number.Double

/-!
# Scaling in double arithmetic

A decimal number can be read without long arithmetic: its significand is curtailed to
a word of 64 bits, taken as a double, and multiplied or divided by a power of ten. Each
of these steps rounds, so the result may miss the nearest double by a few units in the
last place. `Double.ofScaling?` is this reading, and `Double.ofDecimal?` the exact one.
-/

namespace Componentry

namespace Decimal

/-- Append digits to a significand as long as it stays in a word of 64 bits, and count
those that were taken. The digits behind the first one that does not fit are dropped. -/
def takeDigits : Nat → List Char → Nat × Nat
  | significand, [] => (significand, 0)
  | significand, c :: rest =>
      let next := significand * 10 + Numeral.digitValue c
      if next ≤ Numeral.maxUnsigned then
        let (taken, count) := takeDigits next rest
        (taken, count + 1)
      else (significand, 0)

/-- The number of the digits before and behind a point, curtailed to a word. A digit
that is dropped before the point leaves its place; one behind the point is forgotten. -/
def curtailed (negative : Bool) (whole fraction : List Char) (power : Int) : Decimal :=
  let (significand, places) := takeDigits 0 whole
  let (significand, decimals) := takeDigits significand fraction
  ⟨negative, significand, power + Int.ofNat (whole.length - places) - Int.ofNat decimals⟩

end Decimal

namespace Double

/-- The greatest power of ten that is a double. -/
def greatestPower : Nat := 308

/-- The nearest double to a power of ten up to the greatest one. -/
def powerOfTen (power : Nat) : Double := (nearest? false (Nat.pow 10 power) 1).getD default

/-- Multiply by a power of ten. -/
def scaleUp? (x : Double) (power : Nat) : Option Double :=
  if power ≤ greatestPower then x.times? (powerOfTen power)
  else if x.isZero then some x
  else none

/-- Divide by a power of ten, by the greatest one first where it is beyond that. Of a
word nothing is left behind twice the greatest power. -/
def scaleDown? (x : Double) (power : Nat) : Option Double :=
  if power ≤ greatestPower then x.dividedBy? (powerOfTen power)
  else if power ≤ 2 * greatestPower then
    (x.dividedBy? (powerOfTen greatestPower)).bind fun y =>
      y.dividedBy? (powerOfTen (power - greatestPower))
  else some (zero x.negative)

/-- The double that a decimal number of one word scales to, or nothing if it passes the
largest one. -/
def ofScaling? (number : Decimal) : Option Double :=
  (nearest? number.negative number.significand 1).bind fun x =>
    if 0 ≤ number.exponent then x.scaleUp? number.exponent.toNat
    else x.scaleDown? (-number.exponent).toNat

end Double

end Componentry
