import DocRunner.Text.Unprintable

/-!
# Texts in double quotes

* `QuoteStyle` : which characters have an escape letter, and which are written by number, as `\u` with the
  hexadecimal code point in braces;
* `QuoteStyle.quote st s` : `s` in double quotes, in the style `st`;
* `argumentStyle` : how an argument with white space is shown in a command line: only ASCII stays as it is;
* `valueStyle` : how a text is shown in a message about data: printable characters stay as they are.
-/

namespace DocRunner.Text

/-- The decisions of a quoting style. -/
structure QuoteStyle where
  /-- The characters written as a backslash and a letter, with that letter. -/
  named : List (Char × Char)
  /-- The characters written by number, unless they have a letter. -/
  byNumber : Char → Bool

namespace QuoteStyle

/-- How a character is written inside the quotes. -/
def escape (st : QuoteStyle) (c : Char) : List Char :=
  match st.named.lookup c with
  | some letter => ['\\', letter]
  | none =>
    if st.byNumber c then '\\' :: 'u' :: '\x7b' :: (Nat.toDigits 16 c.toNat ++ ['\x7d'])
    else [c]

/-- A text in double quotes. -/
def quote (st : QuoteStyle) (s : String) : String :=
  String.ofList ('\x22' :: (s.toList.flatMap st.escape ++ ['\x22']))

end QuoteStyle

/-- Arguments are shown with both kinds of quotes escaped and nothing but printable ASCII. -/
def argumentStyle : QuoteStyle where
  named := [('\t', 't'), ('\r', 'r'), ('\n', 'n'), ('\x27', '\x27'), ('\x22', '\x22'), ('\\', '\\')]
  byNumber c := c.toNat < 0x20 || 0x7E < c.toNat

/-- Values are shown with the characters that have no picture escaped. -/
def valueStyle : QuoteStyle where
  named := [('\x00', '0'), ('\t', 't'), ('\r', 'r'), ('\n', 'n'), ('\x22', '\x22'), ('\\', '\\')]
  byNumber := isUnprintable

end DocRunner.Text
