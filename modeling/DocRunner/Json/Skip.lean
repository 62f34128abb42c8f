import DocRunner.Json.Numeral
import DocRunner.Json.Text

/-!
# Passing over JSON values

`skipValue cs` is what follows the value at the start of `cs`, if there is one. Values may be nested to any
depth: the brackets that are open are kept in a list.
-/

namespace DocRunner.Json

/-- Leaves out white space. -/
def skipSpaces (cs : List Char) : List Char :=
  cs.dropWhile fun c => c == ' ' || c == '\n' || c == '\t' || c == '\r'

/-- The rest behind a word. -/
def afterWord? : List Char → List Char → Option (List Char)
  | [], cs => some cs
  | w :: word, c :: cs => if w = c then afterWord? word cs else none
  | _ :: _, [] => none

/-- The rest behind a number, a truth value or null. -/
def skipScalar (cs : List Char) : Option (List Char) :=
  match cs with
  | 't' :: _ => afterWord? "true".toList cs
  | 'f' :: _ => afterWord? "false".toList cs
  | 'n' :: _ => afterWord? "null".toList cs
  | _ => (readNumeral cs).map (·.2)

/-- The rest behind a colon and the white space around it. -/
def skipColon (cs : List Char) : Option (List Char) :=
  match skipSpaces cs with
  | ':' :: rest => some (skipSpaces rest)
  | _ => none

/-- The rest behind a key and its colon. -/
def skipKey (cs : List Char) : Option (List Char) :=
  match skipSpaces cs with
  | '\x22' :: rest => (skipText rest).bind skipColon
  | _ => none

/-- A bracket that is open. -/
inductive Bracket
  | array
  | object
  deriving DecidableEq

/-- Goes on, in at most `n` steps, in front of a value (`behind = false`) or behind one, until
all brackets are closed. -/
def skipFrom : Nat → Bool → List Bracket → List Char → Option (List Char)
  | 0, _, _, _ => none
  | n + 1, false, stack, cs =>
    match skipSpaces cs with
    | '[' :: rest =>
      match skipSpaces rest with
      | ']' :: rest => skipFrom n true stack rest
      | _ => skipFrom n false (.array :: stack) rest
    | '\x7b' :: rest =>
      match skipSpaces rest with
      | '\x7d' :: rest => skipFrom n true stack rest
      | _ => (skipKey rest).bind (skipFrom n false (.object :: stack))
    | '\x22' :: rest => (skipText rest).bind (skipFrom n true stack)
    | start => (skipScalar start).bind (skipFrom n true stack)
  | _ + 1, true, [], cs => some cs
  | n + 1, true, .array :: stack, cs =>
    match skipSpaces cs with
    | ',' :: rest => skipFrom n false (.array :: stack) rest
    | ']' :: rest => skipFrom n true stack rest
    | _ => none
  | n + 1, true, .object :: stack, cs =>
    match skipSpaces cs with
    | ',' :: rest => (skipKey rest).bind (skipFrom n false (.object :: stack))
    | '\x7d' :: rest => skipFrom n true stack rest
    | _ => none

/-- The rest behind a value. Each step but the last takes a character. -/
def skipValue (cs : List Char) : Option (List Char) :=
  skipFrom (cs.length + 1) false [] cs

end DocRunner.Json
