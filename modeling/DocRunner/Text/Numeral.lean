/-!
# Decimal numerals

* `digitValue? c` : the value of an ASCII digit;
* `digitsValue? cs` : the value of a nonempty row of ASCII digits;
* `readPort? cs` : a numeral of a port, with an optional plus sign, up to 65535;
* `readInt64 cs` : a signed numeral of 64 bits, or what is wrong with it first.
-/

namespace DocRunner.Text

/-- The value of an ASCII digit. -/
def digitValue? (c : Char) : Option Nat :=
  if '0' ≤ c ∧ c ≤ '9' then some (c.toNat - '0'.toNat) else none

/-- The value of a row of digits read after digits of value `n`. -/
def digitsAfter? (n : Nat) : List Char → Option Nat
  | [] => some n
  | c :: cs =>
    match digitValue? c with
    | some d => digitsAfter? (10 * n + d) cs
    | none => none

/-- The value of a nonempty row of ASCII digits. -/
def digitsValue? : List Char → Option Nat
  | [] => none
  | c :: cs => digitsAfter? 0 (c :: cs)

/-- The largest number of a port. -/
def maxPort : Nat := 65535

/-- A number as a port, if it is one. -/
def toPort? (n : Nat) : Option UInt16 :=
  if n ≤ maxPort then some (UInt16.ofNat n) else none

/-- A port written as digits behind an optional plus sign. -/
def readPort? (cs : List Char) : Option UInt16 :=
  let digits := match cs with
    | '+' :: rest => rest
    | _ => cs
  (digitsValue? digits).bind toPort?

/-- Where the signed integers of 64 bits end: two to the power of 63. -/
def int64Bound : Nat := 9223372036854775808

/-- Where the unsigned integers of 64 bits end: two to the power of 64. -/
def uint64Bound : Nat := 18446744073709551616

/-- What is wrong with a numeral. -/
inductive NumeralError
  | empty
  | badDigit
  | tooLarge
  | tooSmall
  deriving DecidableEq, Repr

namespace NumeralError

/-- How a numeral error reads. -/
def message : NumeralError → String
  | empty => "cannot parse integer from empty string"
  | badDigit => "invalid digit found in string"
  | tooLarge => "number too large to fit in target type"
  | tooSmall => "number too small to fit in target type"

end NumeralError

/-- The value of digits read after digits of value `n`. The first character that is no digit and the first digit
that takes the value over `limit` are errors, whichever comes first. -/
def digitsWithin (limit : Nat) (excess : NumeralError) (n : Nat) : List Char → Except NumeralError Nat
  | [] => .ok n
  | c :: cs =>
    match digitValue? c with
    | none => .error .badDigit
    | some d => if limit < 10 * n + d then .error excess else digitsWithin limit excess (10 * n + d) cs

/-- A signed numeral of 64 bits. A sign needs a digit behind it. -/
def readInt64 : List Char → Except NumeralError Int
  | [] => .error .empty
  | '+' :: [] => .error .badDigit
  | '-' :: [] => .error .badDigit
  | '+' :: cs => (digitsWithin (int64Bound - 1) .tooLarge 0 cs).map Int.ofNat
  | '-' :: cs => (digitsWithin int64Bound .tooSmall 0 cs).map fun n => -Int.ofNat n
  | cs => (digitsWithin (int64Bound - 1) .tooLarge 0 cs).map Int.ofNat

end DocRunner.Text
