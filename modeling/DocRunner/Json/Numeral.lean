import DocRunner.Schema
import DocRunner.Text.Magnitude
import DocRunner.Text.Numeral

/-!
# JSON numerals

* `readNumeral` : a numeral at the start of a text, in its parts, and the rest;
* `fitDigits n cs` : the digits of `cs` that an integer of 64 bits still takes behind the value `n`;
* `Numeral.shape?` : whether a numeral is an integer of 64 bits or else a float. A float is worked out from the
  first digits that fit into 64 bits, times a power of ten; one that this takes to infinity is no number at
  all. Minus zero is a float.
-/

namespace DocRunner.Json

/-- A numeral in its parts. -/
structure Numeral where
  negative : Bool
  whole : List Char
  /-- The digits behind the decimal point, if there is one. -/
  fraction : Option (List Char)
  /-- The sign and the digits of the exponent, if there is one. -/
  exponent : Option (Bool × List Char)
  deriving DecidableEq, Repr

/-- Reads the digits of the whole part. A zero at the start stands alone. -/
def readWhole (cs : List Char) : Option (List Char × List Char) :=
  match cs.takeWhile Char.isDigit with
  | [] => none
  | '0' :: _ :: _ => none
  | ds => some (ds, cs.dropWhile Char.isDigit)

/-- Reads digits, at least one. -/
def readDigits (cs : List Char) : Option (List Char × List Char) :=
  match cs.takeWhile Char.isDigit with
  | [] => none
  | ds => some (ds, cs.dropWhile Char.isDigit)

/-- Reads the decimal point and what follows, if it is there. -/
def readFraction : List Char → Option (Option (List Char) × List Char)
  | '.' :: cs => (readDigits cs).map fun r => (some r.1, r.2)
  | cs => some (none, cs)

/-- Reads the digits of an exponent behind its mark. -/
def readSigned : List Char → Option (Option (Bool × List Char) × List Char)
  | '-' :: cs => (readDigits cs).map fun r => (some (true, r.1), r.2)
  | '+' :: cs => (readDigits cs).map fun r => (some (false, r.1), r.2)
  | cs => (readDigits cs).map fun r => (some (false, r.1), r.2)

/-- Reads an exponent, if it is there. -/
def readExponent : List Char → Option (Option (Bool × List Char) × List Char)
  | 'e' :: cs => readSigned cs
  | 'E' :: cs => readSigned cs
  | cs => some (none, cs)

/-- Reads a numeral without its sign. -/
def readUnsigned (negative : Bool) (cs : List Char) : Option (Numeral × List Char) :=
  (readWhole cs).bind fun whole =>
    (readFraction whole.2).bind fun fraction =>
      (readExponent fraction.2).map fun exponent =>
        (⟨negative, whole.1, fraction.1, exponent.1⟩, exponent.2)

/-- Reads a numeral. -/
def readNumeral : List Char → Option (Numeral × List Char)
  | '-' :: cs => readUnsigned true cs
  | cs => readUnsigned false cs

/-- The value of digits, none of which is none. -/
def digitsNat (ds : List Char) : Nat :=
  (Text.digitsAfter? 0 ds).getD 0

/-- The value of the first digits of a row, read behind digits of value `n`, as far as it fits into 64 bits, and
the digits that are left. -/
def fitDigits (n : Nat) : List Char → Nat × List Char
  | [] => (n, [])
  | c :: cs =>
    let next := 10 * n + (Text.digitValue? c).getD 0
    if next < Text.uint64Bound then fitDigits next cs else (n, c :: cs)

namespace Numeral

/-- The exponent as a number. -/
def exponentValue (n : Numeral) : Int :=
  match n.exponent with
  | none => 0
  | some (true, ds) => -(digitsNat ds : Int)
  | some (false, ds) => digitsNat ds

/-- The digits that count, as a number, and the power of ten that they are scaled by. The digits of
the whole part that no longer fit count for the scale alone, and those of the fraction that no longer
fit do not count at all. -/
def scaled (n : Numeral) : Nat × Int :=
  let fraction := n.fraction.getD []
  let whole := fitDigits 0 n.whole
  let all := fitDigits whole.1 fraction
  (all.1, n.exponentValue + whole.2.length - (fraction.length - all.2.length : Nat))

/-- Whether a numeral is out of the range of floats. -/
def isOutOfRange (n : Numeral) : Bool :=
  Text.scalesToInfinity n.scaled.1 n.scaled.2

/-- The integer that a numeral without fraction and exponent is, if it has 64 bits and is not minus zero. -/
def integer? (n : Numeral) : Option Int :=
  let value := digitsNat n.whole
  if n.fraction.isSome || n.exponent.isSome then none
  else if n.negative then if 0 < value ∧ value ≤ Text.int64Bound then some (-(value : Int)) else none
  else if value < Text.uint64Bound then some value else none

/-- What a numeral is, unless it is out of range. -/
def shape? (n : Numeral) : Option Shape :=
  match n.integer? with
  | some value => some (.integer value)
  | none => if n.isOutOfRange then none else some .float

end Numeral

end DocRunner.Json
