/-!
# Blank characters, trimming and words

* `isBlank c` : `c` has the Unicode property White_Space;
* `trimChars cs` : `cs` without the blanks at both ends;
* `words s` : the maximal runs of characters of `s` that are not blank, in order;
* `isBlankText s` : `s` has no other characters than blanks.
-/

namespace DocRunner.Text

/-- The Unicode property White_Space. -/
def isBlank (c : Char) : Bool :=
  let n := c.toNat
  (9 ≤ n && n ≤ 13) || n == 0x20 || n == 0x85 || n == 0xA0 || n == 0x1680 || (0x2000 ≤ n && n ≤ 0x200A)
    || n == 0x2028 || n == 0x2029 || n == 0x202F || n == 0x205F || n == 0x3000

/-- White space in the ASCII sense: blank, tab, line feed, form feed and carriage return. -/
def isAsciiBlank (c : Char) : Bool :=
  c == ' ' || c == '\t' || c == '\n' || c == '\r' || c == '\x0c'

/-- Leaves out the blanks at both ends. -/
def trimChars (cs : List Char) : List Char :=
  ((cs.dropWhile isBlank).reverse.dropWhile isBlank).reverse

/-- Whether a text holds nothing but blanks. -/
def isBlankText (s : String) : Bool :=
  s.toList.all isBlank

/-- Puts a character in front of the first of some pieces of text. -/
def consFirst (c : Char) : List (List Char) → List (List Char)
  | [] => [[c]]
  | piece :: pieces => (c :: piece) :: pieces

/-- The maximal runs of characters that are not blank. -/
def wordChars : List Char → List (List Char)
  | [] => []
  | c :: cs =>
    if isBlank c then wordChars cs
    else if cs.head?.any fun d => !isBlank d then consFirst c (wordChars cs)
    else [c] :: wordChars cs

/-- The words of a text, which blanks separate. -/
def words (s : String) : List String :=
  (wordChars s.toList).map String.ofList

end DocRunner.Text
