import DocRunner.Toml.Text

/-!
# JSON texts

* `readText` : reads a quoted text behind its opening quote and gives the characters it stands for;
* `skipText` : passes over one. It takes any four hexadecimal digits behind `\u`, while `readText` takes
  surrogates only as a pair.
-/

namespace DocRunner.Json

open Toml (hexValueAfter? charOfCode? consChar)

/-- Whether a character may stand in a quoted text as it is. -/
def isPlain (c : Char) : Bool :=
  0x20 ≤ c.toNat && c != '\x22' && c != '\\'

/-- The character of a short escape. -/
def shortEscape? (c : Char) : Option Char :=
  [('\x22', '\x22'), ('\\', '\\'), ('/', '/'), ('b', '\x08'), ('f', '\x0c'), ('n', '\n'), ('r', '\r'),
    ('t', '\t')].lookup c

/-- Whether a number is the first half of a surrogate pair. -/
def isHighSurrogate (n : Nat) : Bool := 0xD800 ≤ n && n ≤ 0xDBFF

/-- The code point of a surrogate pair. -/
def pairCode? (high low : Nat) : Option Nat :=
  if 0xDC00 ≤ low ∧ low ≤ 0xDFFF then some (0x10000 + (high - 0xD800) * 0x400 + (low - 0xDC00)) else none

/-- Reads behind a double quote up to the next one. -/
def readText : List Char → Option (List Char × List Char)
  | [] => none
  | '\x22' :: cs => some ([], cs)
  | '\\' :: 'u' :: a :: b :: c :: d :: cs =>
    match hexValueAfter? 0 [a, b, c, d] with
    | none => none
    | some n =>
      if isHighSurrogate n then
        match cs with
        | '\\' :: 'u' :: e :: f :: g :: h :: rest =>
          ((hexValueAfter? 0 [e, f, g, h]).bind (pairCode? n)).bind charOfCode? |>.bind fun x =>
            consChar x (readText rest)
        | _ => none
      else (charOfCode? n).bind fun x => consChar x (readText cs)
  | '\\' :: c :: cs => (shortEscape? c).bind fun x => consChar x (readText cs)
  | c :: cs => if isPlain c then consChar c (readText cs) else none

/-- Passes over a text behind its opening quote. -/
def skipText : List Char → Option (List Char)
  | [] => none
  | '\x22' :: cs => some cs
  | '\\' :: 'u' :: a :: b :: c :: d :: cs => if (hexValueAfter? 0 [a, b, c, d]).isSome then skipText cs else none
  | '\\' :: c :: cs => if (shortEscape? c).isSome then skipText cs else none
  | c :: cs => if isPlain c then skipText cs else none

end DocRunner.Json
