import Componentry.Number.Numeral

/-!
# Decimal notation of real numbers

A decimal number is an optional sign, digits with at most one point among them,
and an optional power of ten. This module reads the notation; which double a
decimal number stands for is the business of `Componentry.Number.Double`.
-/

namespace Componentry

/-- The number `significand * 10 ^ exponent`, with a sign that also zero has. -/
structure Decimal where
  negative : Bool
  significand : Nat
  exponent : Int
  deriving DecidableEq, Repr

namespace Decimal

/-- The value of a run of digits, most significant first. -/
def digitsValue (digits : List Char) : Nat :=
  digits.foldl (fun value c => value * 10 + Numeral.digitValue c) 0

/-- Split a text behind its leading digits. -/
def spanDigits (text : List Char) : List Char × List Char :=
  (text.takeWhile Char.isDigit, text.dropWhile Char.isDigit)

/-- Read the sign of a number, and the text behind it. -/
def readSign : List Char → Bool × List Char
  | '-' :: rest => (true, rest)
  | '+' :: rest => (false, rest)
  | rest => (false, rest)

/-- Read the power of ten that ends a number: nothing, or the letter `e` with a
signed run of digits. -/
def readPower : List Char → Option Int
  | [] => some 0
  | c :: rest =>
      if c = 'e' || c = 'E' then
        let (negative, digits) := readSign rest
        if digits.isEmpty || !digits.all Char.isDigit then none
        else
          let size := Int.ofNat (digitsValue digits)
          some (if negative then -size else size)
      else none

/-- Read the digits behind an optional sign: at least one digit before or behind
the point. -/
def readMagnitude (negative : Bool) (text : List Char) : Option Decimal :=
  let (whole, behindWhole) := spanDigits text
  let (fraction, behind) :=
    match behindWhole with
    | '.' :: rest => spanDigits rest
    | rest => ([], rest)
  if whole.isEmpty && fraction.isEmpty then none
  else
    (readPower behind).map fun power =>
      ⟨negative, digitsValue (whole ++ fraction), power - Int.ofNat fraction.length⟩

/-- Read a decimal number. -/
def read? (text : List Char) : Option Decimal :=
  let (negative, rest) := readSign text
  readMagnitude negative rest

end Decimal

end Componentry
