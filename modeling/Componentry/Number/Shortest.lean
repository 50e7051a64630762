import Componentry.Number.Double

/-!
# The shortest decimal text of a double

A double is written with the fewest significant digits that read back as the same
double, and of those with the digits nearest to it. `Double.shortest` finds the
digits, a `Tie` decides between two that are equally near, and a `Layout` says how
they are set around the point.
-/

namespace Componentry

/-- The positive number `0.d₁d₂… * 10 ^ point` by its significant digits. -/
structure Significant where
  digits : List Char
  point : Int
  deriving DecidableEq, Repr

/-- Which of two equally near whole numbers is taken. -/
inductive Tie
  | even
  | above
  deriving DecidableEq, Repr

namespace Tie

/-- The one of a whole number and its successor that is taken. -/
def choose (tie : Tie) (below : Nat) : Nat :=
  match tie with
  | even => if below % 2 = 0 then below else below + 1
  | above => below + 1

end Tie

namespace Double

/-- The number of digits before the point of a positive ratio, negative by the
number of zeros that follow the point. -/
def decimalPoint (numerator denominator : Nat) : Int :=
  if denominator ≤ numerator then
    Int.ofNat (Numeral.ofNat (numerator / denominator)).length
  else
    let inverse := (denominator + numerator - 1) / numerator
    1 - Int.ofNat (Numeral.ofNat (inverse - 1)).length

/-- The reals that round to a double, as three numerators over one denominator:
the lower end, the double itself and the upper end. The ends belong to the
interval when the significand is even. -/
structure Interval where
  low : Nat
  middle : Nat
  high : Nat
  denominator : Nat
  closed : Bool

/-- The interval of the magnitude. Its lower half is short where the significand
is the least of its exponent. -/
def interval (x : Double) : Interval :=
  let (unit, denominator) := scaled 1 1 (x.exponent - 2)
  let narrow := x.significand = Nat.pow 2 52 && x.exponent != -1074
  ⟨(4 * x.significand - if narrow then 1 else 2) * unit, 4 * x.significand * unit,
    (4 * x.significand + 2) * unit, denominator, x.significand % 2 == 0⟩

namespace Interval

/-- The interval in units of `10 ^ power`. -/
def inUnits (i : Interval) (power : Int) : Interval :=
  if 0 ≤ power then { i with denominator := i.denominator * Nat.pow 10 power.toNat }
  else
    let factor := Nat.pow 10 (-power).toNat
    { i with low := i.low * factor, middle := i.middle * factor, high := i.high * factor }

/-- Whether a whole number lies in the interval. -/
def contains (i : Interval) (n : Nat) : Bool :=
  let scaled := n * i.denominator
  if i.closed then i.low ≤ scaled && scaled ≤ i.high
  else i.low < scaled && scaled < i.high

/-- The whole number of the interval that is nearest to its middle; nothing if the
interval holds no whole number. -/
def nearestWhole? (i : Interval) (tie : Tie) : Option Nat :=
  let below := i.middle / i.denominator
  let above := below + 1
  match i.contains below, i.contains above with
  | false, false => none
  | true, false => some below
  | false, true => some above
  | true, true =>
      let down := i.middle - below * i.denominator
      let up := above * i.denominator - i.middle
      if down < up then some below
      else if up < down then some above
      else some (tie.choose below)

end Interval

/-- The digits of `coefficient * 10 ^ power`, without zeros at their end. -/
def significantOf (coefficient : Nat) (power : Int) : Significant :=
  let digits := Numeral.ofNat coefficient
  ⟨(digits.reverse.dropWhile (· = '0')).reverse, power + Int.ofNat digits.length⟩

/-- Try `size` digits and more, at most `fuel` times; `point` is the decimal point
of the middle. -/
def shortestFrom (i : Interval) (tie : Tie) (point : Int) : Nat → Nat → Significant
  | 0, size =>
      let units := i.inUnits (point - Int.ofNat size)
      significantOf (units.middle / units.denominator) (point - Int.ofNat size)
  | fuel + 1, size =>
      let power := point - Int.ofNat size
      match (i.inUnits power).nearestWhole? tie with
      | some coefficient => significantOf coefficient power
      | none => shortestFrom i tie point fuel (size + 1)

/-- The shortest digits of a magnitude; zero has none. Seventeen digits always
read back. -/
def shortest (x : Double) (tie : Tie) : Significant :=
  if x.isZero then ⟨[], 0⟩
  else
    let i := x.interval
    shortestFrom i tie (decimalPoint i.middle i.denominator) 17 1

end Double

/-- How the digits of a number are set. -/
structure Layout where
  /-- The points that are written without a power of ten, as a closed range; all
  of them where no range is given. -/
  positional : Option (Int × Int)
  /-- Whether a whole number keeps one zero behind the point. -/
  fraction : Bool
  /-- The choice between two texts of the same length that are equally near. -/
  tie : Tie

namespace Layout

/-- The layout of a number in a JSON text: positional from `0.00001` up to sixteen
digits before the point, and always with a fraction there. A tie goes to the even
digit. -/
def json : Layout := ⟨some (-4, 16), true, .even⟩

/-- The layout of a number that stands for a text: always positional, and without
a fraction where none is needed. A tie goes away from zero. -/
def plain : Layout := ⟨none, false, .above⟩

/-- Zeros in a row. -/
def zeros (count : Int) : List Char := List.replicate count.toNat '0'

/-- Digits around the point, without a power of ten. -/
def positionally (fraction : Bool) (s : Significant) : List Char :=
  let ending := if fraction then ['.', '0'] else []
  if s.digits.isEmpty then '0' :: ending
  else if s.point ≤ 0 then '0' :: '.' :: zeros (-s.point) ++ s.digits
  else if s.point < Int.ofNat s.digits.length then
    s.digits.take s.point.toNat ++ '.' :: s.digits.drop s.point.toNat
  else s.digits ++ zeros (s.point - Int.ofNat s.digits.length) ++ ending

/-- One digit before the point, and a power of ten that always has a sign. -/
def scientifically (s : Significant) : List Char :=
  let power := s.point - 1
  let mantissa :=
    match s.digits with
    | [] => ['0']
    | [digit] => [digit]
    | digit :: rest => digit :: '.' :: rest
  mantissa ++ 'e' :: (if power < 0 then '-' else '+') :: Numeral.ofNat power.natAbs

/-- The digits of a number as the layout sets them. -/
def write (layout : Layout) (s : Significant) : List Char :=
  match layout.positional with
  | none => positionally layout.fraction s
  | some (least, greatest) =>
      if s.digits.isEmpty || (least ≤ s.point && s.point ≤ greatest) then
        positionally layout.fraction s
      else scientifically s

end Layout

namespace Double

/-- The text of a double in a layout. -/
def text (x : Double) (layout : Layout) : List Char :=
  let magnitude := layout.write (x.shortest layout.tie)
  if x.negative then '-' :: magnitude else magnitude

end Double

end Componentry
