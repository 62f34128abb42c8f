import DocRunner.Text.Blank

/-!
# Lines

* `lines s` : the lines of `s`. A line ends with a line feed or with a carriage return and a line feed, which do
  not belong to it; the last one may end with the text. A carriage return elsewhere is an ordinary character.
* `firstLine s` : the first line of `s`, which is empty if `s` has none.
-/

namespace DocRunner.Text

/-- The lines of a text given by its characters. -/
def lineChars : List Char → List (List Char)
  | [] => []
  | '\n' :: cs => [] :: lineChars cs
  | '\r' :: '\n' :: cs => [] :: lineChars cs
  | c :: cs => consFirst c (lineChars cs)

/-- The lines of a text. -/
def lines (s : String) : List String :=
  (lineChars s.toList).map String.ofList

/-- The first line of a text. -/
def firstLine (s : String) : String :=
  (lines s).head?.getD ""

end DocRunner.Text
