/-!
# Decimal numerals of bounded integers

A numeral is a non-empty run of ASCII digits, with a sign where one is allowed.
It is read from the left, and the first fault decides: a character that is no
digit, or a digit with which the value passes the bound.
-/

namespace Componentry

/-- Why a text is no numeral of the wanted range. -/
inductive NumeralFault
  | empty
  | invalidDigit
  | tooLarge
  | tooSmall
  deriving DecidableEq, Repr

namespace NumeralFault

/-- The wording of a fault. -/
def message : NumeralFault → String
  | empty => "cannot parse integer from empty string"
  | invalidDigit => "invalid digit found in string"
  | tooLarge => "number too large to fit in target type"
  | tooSmall => "number too small to fit in target type"

end NumeralFault

namespace Numeral

/-- The largest integer of an unsigned word of 64 bits. -/
def maxUnsigned : Nat := 18446744073709551615

/-- The largest integer of a signed word of 64 bits. -/
def maxSigned : Nat := 9223372036854775807

/-- The value of a digit character. -/
def digitValue (c : Char) : Nat := c.toNat - 48

/-- Read digits behind those that gave `value`, up to `bound`; `beyond` is the
fault of passing it. -/
def readDigits (bound : Nat) (beyond : NumeralFault) :
    Nat → List Char → Except NumeralFault Nat
  | value, [] => .ok value
  | value, c :: rest =>
      if c.isDigit then
        let next := value * 10 + digitValue c
        if next ≤ bound then readDigits bound beyond next rest else .error beyond
      else .error .invalidDigit

/-- Read a run of digits without a sign. -/
def readRun (bound : Nat) (beyond : NumeralFault) (digits : List Char) :
    Except NumeralFault Nat :=
  if digits.isEmpty then .error .invalidDigit else readDigits bound beyond 0 digits

/-- Read an unsigned integer of 64 bits; a plus sign is allowed. -/
def readUnsigned : List Char → Except NumeralFault Nat
  | [] => .error .empty
  | '+' :: digits => readRun maxUnsigned .tooLarge digits
  | digits => readRun maxUnsigned .tooLarge digits

/-- Read a signed integer of 64 bits; a plus or a minus sign is allowed. -/
def readSigned : List Char → Except NumeralFault Int
  | [] => .error .empty
  | '+' :: digits => (readRun maxSigned .tooLarge digits).map Int.ofNat
  | '-' :: digits => (readRun (maxSigned + 1) .tooSmall digits).map fun n => -Int.ofNat n
  | digits => (readRun maxSigned .tooLarge digits).map Int.ofNat

/-- The digits of a natural number, without leading zeros. -/
def ofNat (n : Nat) : List Char := Nat.toDigits 10 n

/-- The numeral of an integer: a minus sign if it is negative, then its digits. -/
def ofInt : Int → List Char
  | .ofNat n => ofNat n
  | .negSucc n => '-' :: ofNat (n + 1)

end Numeral

end Componentry
