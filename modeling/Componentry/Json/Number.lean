import Componentry.Json.Syntax
import Componentry.Number.Scaling

/-!
# Numbers of a JSON text

A number is a minus sign or none, a whole number without leading zeros, a point with
digits or none, and a power of ten or none. Whole numbers of 64 bits are integers; all
the others are doubles, read by scaling.
-/

namespace Componentry.Json

/-- Whether digits are those of a whole number without leading zeros. -/
def isWhole : List Char → Bool
  | [] => false
  | ['0'] => true
  | c :: rest => c != '0' && (c :: rest).all Char.isDigit

/-- The document of a number that is no integer. -/
def ofReal (negative : Bool) (whole fraction : List Char) (power : Int) : Json :=
  match Double.ofScaling? (Decimal.curtailed negative whole fraction power) with
  | some x => double x
  | none => unusable

/-- The document of a number without point and power. Negative zero and the integers
beyond 64 bits are doubles. -/
def ofWhole (negative : Bool) (digits : List Char) : Json :=
  let size := Decimal.digitsValue digits
  if negative && 0 < size && size ≤ Numeral.maxSigned + 1 then integer (-Int.ofNat size)
  else if !negative && size ≤ Numeral.maxUnsigned then integer (Int.ofNat size)
  else ofReal negative digits [] 0

/-- The document of a number by its characters. -/
def ofNumber? (characters : List Char) : Option Json :=
  let (negative, magnitude) :=
    match characters with
    | '-' :: rest => (true, rest)
    | rest => (false, rest)
  let (whole, behind) := Decimal.spanDigits magnitude
  if !isWhole whole then none
  else
    match behind with
    | [] => some (ofWhole negative whole)
    | '.' :: rest =>
        let (fraction, behind) := Decimal.spanDigits rest
        if fraction.isEmpty then none
        else (Decimal.readPower behind).map (ofReal negative whole fraction)
    | behind => (Decimal.readPower behind).map (ofReal negative whole [])

end Componentry.Json
