/-!
# TOML texts

The four kinds of quoted text. Each reader starts behind the opening quotes and gives the text and what
follows the closing ones:

* `basicText` : in double quotes, on one line, with escapes;
* `literalText` : in single quotes, on one line, as it is;
* `longBasicText` : in three double quotes, over lines, with escapes and with line breaks
  that a backslash takes out;
* `longLiteralText` : in three single quotes, over lines, as it is.

A line break inside a text is a line feed, also where a carriage return stands in front of it.
-/

namespace DocRunner.Toml

/-- Whether a character may stand in a text or in a comment: no control but the tab. -/
def isTextChar (c : Char) : Bool :=
  c == '\t' || (0x20 ≤ c.toNat && c.toNat ≠ 0x7F)

/-- The value of a hexadecimal digit. -/
def hexValue? (c : Char) : Option Nat :=
  if '0' ≤ c ∧ c ≤ '9' then some (c.toNat - '0'.toNat)
  else if 'a' ≤ c ∧ c ≤ 'f' then some (c.toNat - 'a'.toNat + 10)
  else if 'A' ≤ c ∧ c ≤ 'F' then some (c.toNat - 'A'.toNat + 10)
  else none

/-- The value of hexadecimal digits, read after digits of value `n`. -/
def hexValueAfter? (n : Nat) : List Char → Option Nat
  | [] => some n
  | c :: cs => (hexValue? c).bind fun d => hexValueAfter? (16 * n + d) cs

/-- The character of a code point, unless it is a surrogate or too large. -/
def charOfCode? (n : Nat) : Option Char :=
  if h : n.isValidChar then some (Char.ofNatAux n h) else none

/-- The character that hexadecimal digits name. -/
def charOfHex? (digits : List Char) : Option Char :=
  (hexValueAfter? 0 digits).bind charOfCode?

/-- The character of a short escape. -/
def shortEscape? (c : Char) : Option Char :=
  [('b', '\x08'), ('t', '\t'), ('n', '\n'), ('f', '\x0c'), ('r', '\r'), ('\x22', '\x22'), ('\\', '\\')].lookup c

/-- Puts a character in front of a text that was read. -/
def consChar (c : Char) (read : Option (List Char × List Char)) : Option (List Char × List Char) :=
  read.map fun r => (c :: r.1, r.2)

/-- Reads behind a double quote up to the next one. -/
def basicText : List Char → Option (List Char × List Char)
  | [] => none
  | '\x22' :: cs => some ([], cs)
  | '\\' :: 'u' :: a :: b :: c :: d :: cs => (charOfHex? [a, b, c, d]).bind fun x => consChar x (basicText cs)
  | '\\' :: 'U' :: a :: b :: c :: d :: e :: f :: g :: h :: cs =>
    (charOfHex? [a, b, c, d, e, f, g, h]).bind fun x => consChar x (basicText cs)
  | '\\' :: c :: cs => (shortEscape? c).bind fun x => consChar x (basicText cs)
  | c :: cs => if isTextChar c && c != '\\' then consChar c (basicText cs) else none

/-- Reads behind a single quote up to the next one. -/
def literalText : List Char → Option (List Char × List Char)
  | [] => none
  | '\x27' :: cs => some ([], cs)
  | c :: cs => if isTextChar c then consChar c (literalText cs) else none

/-- How a long text goes on. -/
inductive LongMode
  /-- With its characters. -/
  | text
  /-- With blanks up to the line break that a backslash takes out. -/
  | toLineBreak
  /-- With blanks and line breaks that a backslash takes out. -/
  | pastLineBreak
  deriving DecidableEq

/-- Whether a character is a space or a tab. -/
def isSpace (c : Char) : Bool := c == ' ' || c == '\t'

/-- Reads behind three double quotes up to the next three. One or two more quotes may stand
at the end of the text. -/
def longBasicText (mode : LongMode) : List Char → Option (List Char × List Char)
  | [] => none
  | '\r' :: '\n' :: cs =>
    if mode = .text then consChar '\n' (longBasicText .text cs) else longBasicText .pastLineBreak cs
  | '\n' :: cs =>
    if mode = .text then consChar '\n' (longBasicText .text cs) else longBasicText .pastLineBreak cs
  | c :: cs =>
    if mode = .toLineBreak then if isSpace c then longBasicText .toLineBreak cs else none
    else if mode = .pastLineBreak && isSpace c then longBasicText .pastLineBreak cs
    else if c = '\x22' then
      match cs with
      | '\x22' :: '\x22' :: '\x22' :: '\x22' :: rest => some (['\x22', '\x22'], rest)
      | '\x22' :: '\x22' :: '\x22' :: rest => some (['\x22'], rest)
      | '\x22' :: '\x22' :: rest => some ([], rest)
      | _ => consChar c (longBasicText .text cs)
    else if c = '\\' then
      match cs with
      | 'u' :: a :: b :: c :: d :: rest => (charOfHex? [a, b, c, d]).bind fun x =>
        consChar x (longBasicText .text rest)
      | 'U' :: a :: b :: c :: d :: e :: f :: g :: h :: rest =>
        (charOfHex? [a, b, c, d, e, f, g, h]).bind fun x => consChar x (longBasicText .text rest)
      | '\n' :: rest => longBasicText .pastLineBreak rest
      | '\r' :: '\n' :: rest => longBasicText .pastLineBreak rest
      | e :: rest =>
        if isSpace e then longBasicText .toLineBreak rest
        else (shortEscape? e).bind fun x => consChar x (longBasicText .text rest)
      | [] => none
    else if isTextChar c then consChar c (longBasicText .text cs)
    else none

/-- Reads behind three single quotes up to the next three. One or two more quotes may stand
at the end of the text. -/
def longLiteralText : List Char → Option (List Char × List Char)
  | [] => none
  | '\x27' :: '\x27' :: '\x27' :: '\x27' :: '\x27' :: cs => some (['\x27', '\x27'], cs)
  | '\x27' :: '\x27' :: '\x27' :: '\x27' :: cs => some (['\x27'], cs)
  | '\x27' :: '\x27' :: '\x27' :: cs => some ([], cs)
  | '\r' :: '\n' :: cs => consChar '\n' (longLiteralText cs)
  | c :: cs => if isTextChar c || c == '\n' then consChar c (longLiteralText cs) else none

/-- Leaves out a line break at the start. -/
def dropLineBreak : List Char → List Char
  | '\n' :: cs => cs
  | '\r' :: '\n' :: cs => cs
  | cs => cs

/-- Reads a quoted text of any kind. -/
def quotedText : List Char → Option (List Char × List Char)
  | '\x22' :: '\x22' :: '\x22' :: cs => longBasicText .text (dropLineBreak cs)
  | '\x22' :: cs => basicText cs
  | '\x27' :: '\x27' :: '\x27' :: cs => longLiteralText (dropLineBreak cs)
  | '\x27' :: cs => literalText cs
  | _ => none

end DocRunner.Toml
