import DocRunner.Text.Magnitude
import DocRunner.Text.Numeral
import DocRunner.Toml.Text
import DocRunner.Toml.Value

/-!
# TOML scalars without quotes

`scalar? token` is the value that a token without quotes stands for: a truth value, an integer, a float, or a
date or time. Each kind has a recogniser of whole tokens.

* `digits? isDigit cs` : the digits of a numeral in which single underscores may stand between digits;
* `integer? cs` : an integer of 64 bits, decimal, hexadecimal, octal or binary;
* `isFloat cs` : a float that does not round to positive infinity;
* `isDateTime cs` : a date, a time, or both, with an offset if it likes.
-/

namespace DocRunner.Toml

/-- The digits of a numeral in which single underscores may stand between digits. -/
def digits? (isDigit : Char → Bool) : List Char → Option (List Char)
  | [] => none
  | [c] => if isDigit c then some [c] else none
  | c :: '_' :: cs => if isDigit c then (digits? isDigit cs).map (c :: ·) else none
  | c :: cs => if isDigit c then (digits? isDigit cs).map (c :: ·) else none

/-- The value of digits in some base, each less than the base. -/
def valueInBase? (base : Nat) (cs : List Char) : Option Nat :=
  (digits? (fun c => (hexValue? c).any (· < base)) cs).map fun ds =>
    ds.foldl (fun n c => base * n + (hexValue? c).getD 0) 0

/-- A decimal numeral without a sign. It starts with no zero that could be left out. -/
def decimal? : List Char → Option Nat
  | ['0'] => some 0
  | '0' :: _ => none
  | cs => valueInBase? 10 cs

/-- The sign of a numeral, `true` for minus, and the rest. -/
def sign : List Char → Bool × List Char
  | '+' :: cs => (false, cs)
  | '-' :: cs => (true, cs)
  | cs => (false, cs)

/-- A number unless it takes more than 64 bits. -/
def int64? (n : Int) : Option Int :=
  if -(Text.int64Bound : Int) ≤ n ∧ n < Text.int64Bound then some n else none

/-- An integer. Only decimal ones may have a sign. -/
def integer? : List Char → Option Int
  | '0' :: 'x' :: cs => (valueInBase? 16 cs).bind fun n => int64? n
  | '0' :: 'o' :: cs => (valueInBase? 8 cs).bind fun n => int64? n
  | '0' :: 'b' :: cs => (valueInBase? 2 cs).bind fun n => int64? n
  | cs => (decimal? (sign cs).2).bind fun n => int64? (if (sign cs).1 then -n else n)

/-- The digits behind the decimal point of a float, which may be missing. -/
def fraction? : List Char → Option (List Char)
  | [] => some []
  | '.' :: cs => digits? (fun c => c.isDigit) cs
  | _ => none

/-- The exponent of a float, which may be missing. -/
def exponent? : List Char → Option Int
  | [] => some 0
  | _ :: cs => (digits? (fun c => c.isDigit) (sign cs).2).bind fun ds =>
    (Text.digitsValue? ds).map fun n => if (sign cs).1 then -(n : Int) else n

/-- Whether a character starts the exponent of a float. -/
def isExponentMark (c : Char) : Bool := c == 'e' || c == 'E'

/-- Whether a token is a float: a decimal numeral with a fraction, an exponent or both, or one of the special
values. A positive one that rounds to infinity is none. -/
def isFloat (cs : List Char) : Bool :=
  let unsigned := (sign cs).2
  let mantissa := unsigned.takeWhile (!isExponentMark ·)
  let exponentPart := unsigned.dropWhile (!isExponentMark ·)
  let whole := mantissa.takeWhile (· != '.')
  let fractionPart := mantissa.dropWhile (· != '.')
  if unsigned = ['i', 'n', 'f'] || unsigned = ['n', 'a', 'n'] then true
  else if fractionPart = [] && exponentPart = [] then false
  else match decimal? whole, fraction? fractionPart, exponent? exponentPart with
    | some n, some ds, some e =>
      (sign cs).1 || !Text.overflows (n * Nat.pow 10 ds.length + (Text.digitsAfter? 0 ds).getD 0) (e - ds.length)
    | _, _, _ => false

/-! ## Dates and times -/

/-- A number of two digits. -/
def twoDigits? (a b : Char) : Option Nat :=
  Text.digitsValue? [a, b]

/-- The days of a month. -/
def daysOfMonth (year month : Nat) : Nat :=
  if month = 2 then if year % 4 = 0 && (year % 100 ≠ 0 || year % 400 = 0) then 29 else 28
  else if month = 4 || month = 6 || month = 9 || month = 11 then 30
  else 31

/-- Whether the text in front of some others is a date, and what they are. -/
def date? : List Char → Option (List Char)
  | a :: b :: c :: d :: '-' :: e :: f :: '-' :: g :: h :: rest =>
    match Text.digitsValue? [a, b, c, d], twoDigits? e f, twoDigits? g h with
    | some year, some month, some day =>
      if 1 ≤ month ∧ month ≤ 12 ∧ 1 ≤ day ∧ day ≤ daysOfMonth year month then some rest else none
    | _, _, _ => none
  | _ => none

/-- The rest behind the hours and minutes of a clock. -/
def hourMinute? : List Char → Option (List Char)
  | a :: b :: ':' :: c :: d :: rest =>
    match twoDigits? a b, twoDigits? c d with
    | some hour, some minute => if hour ≤ 23 ∧ minute ≤ 59 then some rest else none
    | _, _ => none
  | _ => none

/-- The rest behind a time. A leap second is a second. -/
def time? (cs : List Char) : Option (List Char) :=
  match hourMinute? cs with
  | some (':' :: a :: b :: rest) =>
    match twoDigits? a b with
    | some second =>
      if second ≤ 60 then
        match rest with
        | '.' :: c :: more => if c.isDigit then some (more.dropWhile Char.isDigit) else none
        | _ => some rest
      else none
    | none => none
  | _ => none

/-- Whether a text is an offset from universal time, or nothing. -/
def isOffset : List Char → Bool
  | [] => true
  | ['Z'] => true
  | ['z'] => true
  | '+' :: cs => hourMinute? cs = some []
  | '-' :: cs => hourMinute? cs = some []
  | _ => false

/-- Whether a character stands between a date and a time. -/
def isTimeMark (c : Char) : Bool := c == 'T' || c == 't' || c == ' '

/-- Whether a token is a date, a time, or a date with a time and perhaps an offset. -/
def isDateTime (cs : List Char) : Bool :=
  match date? cs with
  | some [] => true
  | some (c :: rest) => isTimeMark c && (time? rest).any isOffset
  | none => time? cs = some []

/-! ## Tokens -/

/-- Whether a character may stand in a token without quotes. -/
def isTokenChar (c : Char) : Bool :=
  c.isAlphanum || c == '_' || c == '-' || c == '+' || c == '.' || c == ':'

/-- The value that a token without quotes stands for. -/
def scalar? (token : List Char) : Option Value :=
  if token = ['t', 'r', 'u', 'e'] then some (.boolean true)
  else if token = ['f', 'a', 'l', 's', 'e'] then some (.boolean false)
  else match integer? token with
    | some n => some (.integer n)
    | none =>
      if isFloat token then some (.float (String.ofList token))
      else if isDateTime token then some (.datetime (String.ofList token))
      else none

/-- The token at the start of a text, and the rest. A time behind a date and one space belongs to the token. -/
def token (cs : List Char) : List Char × List Char :=
  let first := cs.takeWhile isTokenChar
  match date? first, cs.dropWhile isTokenChar with
  | some [], ' ' :: c :: rest =>
    if c.isDigit then (first ++ ' ' :: (c :: rest).takeWhile isTokenChar, (c :: rest).dropWhile isTokenChar)
    else (first, ' ' :: c :: rest)
  | _, rest => (first, rest)

end DocRunner.Toml
