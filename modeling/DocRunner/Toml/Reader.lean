import DocRunner.Toml.Document
import DocRunner.Toml.Scalar

/-!
# Reading a TOML document

* `readKey` : a key, that is, names separated by dots;
* `readValue depth` : a value in which arrays and inline tables are nested up to `depth` times;
* `readLine` : a line of a document (which goes on to the end of a value over several lines);
* `read? s` : the top level entries of the document `s`, or none if it is no TOML document.
-/

namespace DocRunner.Toml

/-- Leaves out spaces and tabs. -/
def skipSpaces (cs : List Char) : List Char :=
  cs.dropWhile isSpace

/-- The rest behind the end of a line, where a comment may stand. The end of the document is one. -/
def lineEnd? (cs : List Char) : Option (List Char) :=
  let behindComment := match skipSpaces cs with
    | '#' :: rest => rest.dropWhile isTextChar
    | rest => rest
  match behindComment with
  | [] => some []
  | '\n' :: rest => some rest
  | '\r' :: '\n' :: rest => some rest
  | _ => none

/-- Leaves out spaces, line breaks and comments. Started within a comment, it first leaves that out. -/
def skipFiller? (inComment : Bool) : List Char → Option (List Char)
  | [] => some []
  | '\n' :: cs => skipFiller? false cs
  | '\r' :: '\n' :: cs => skipFiller? false cs
  | c :: cs =>
    if inComment then if isTextChar c then skipFiller? true cs else none
    else if isSpace c then skipFiller? false cs
    else if c = '#' then skipFiller? true cs
    else some (c :: cs)

/-! ## Keys -/

/-- The most names of a key, and the most times that arrays and inline tables can be nested. -/
def nestingLimit : Nat := 79

/-- Whether a character may stand in a name without quotes. -/
def isNameChar (c : Char) : Bool :=
  c.isAlphanum || c == '_' || c == '-'

/-- Reads a name, with quotes or without. -/
def readName : List Char → Option (String × List Char)
  | '\x22' :: cs => (basicText cs).map fun r => (String.ofList r.1, r.2)
  | '\x27' :: cs => (literalText cs).map fun r => (String.ofList r.1, r.2)
  | cs =>
    match cs.takeWhile isNameChar with
    | [] => none
    | name => some (String.ofList name, cs.dropWhile isNameChar)

/-- Reads up to `n` names separated by dots. Spaces may stand around each. -/
def readNames : Nat → List Char → Option (List String × List Char)
  | 0, _ => none
  | n + 1, cs =>
    match readName (skipSpaces cs) with
    | none => none
    | some (name, rest) =>
      match skipSpaces rest with
      | '.' :: more => (readNames n more).map fun r => (name :: r.1, r.2)
      | rest => some ([name], rest)

/-- A key as the names on the way to its last one, and that. -/
abbrev Key := List String × String

/-- Reads a key, with the spaces around it. -/
def readKey (cs : List Char) : Option (Key × List Char) :=
  (readNames nestingLimit cs).bind fun r =>
    r.1.getLast?.map fun last => ((r.1.dropLast, last), r.2)

/-! ## Values -/

/-- Reads a key, an equals sign and a value. -/
def readAssignment (value : List Char → Option (Value × List Char)) (cs : List Char) :
    Option (Key × Value × List Char) :=
  match readKey cs with
  | some (key, '=' :: rest) => (value (skipSpaces rest)).map fun r => (key, r.1, r.2)
  | _ => none

/-- Reads the elements of an array, behind its bracket or a comma, up to the closing bracket. -/
def readElements (value : List Char → Option (Value × List Char)) :
    Nat → List Char → Option (List Value × List Char)
  | 0, _ => none
  | n + 1, cs =>
    match skipFiller? false cs with
    | some (']' :: rest) => some ([], rest)
    | some start =>
      match value start with
      | none => none
      | some (v, rest) =>
        match skipFiller? false rest with
        | some (']' :: rest) => some ([v], rest)
        | some (',' :: rest) => (readElements value n rest).map fun r => (v :: r.1, r.2)
        | _ => none
    | none => none

/-- Reads the assignments of an inline table, behind its brace or a comma, up to the
closing brace, into entries. -/
def readInline (value : List Char → Option (Value × List Char)) : Nat → Entries → List Char →
    Option (Entries × List Char)
  | 0, _, _ => none
  | n + 1, es, cs =>
    match readAssignment value cs with
    | none => none
    | some ((path, key), v, rest) =>
      match es.assign [] path key v with
      | none => none
      | some es =>
        match skipSpaces rest with
        | '\x7d' :: rest => some (es, rest)
        | ',' :: rest => readInline value n es rest
        | _ => none

/-- Reads a value in which arrays and inline tables are nested up to `depth` times. -/
def readValue : Nat → List Char → Option (Value × List Char)
  | depth, cs =>
    match cs with
    | '\x22' :: _ => (quotedText cs).map fun r => (.string (String.ofList r.1), r.2)
    | '\x27' :: _ => (quotedText cs).map fun r => (.string (String.ofList r.1), r.2)
    | '[' :: rest =>
      match depth with
      | 0 => none
      | depth + 1 =>
        (readElements (fun cs => readValue depth cs) cs.length rest).map fun r => (.array r.1, r.2)
    | '\x7b' :: rest =>
      match depth with
      | 0 => none
      | depth + 1 =>
        match skipSpaces rest with
        | '\x7d' :: rest => some (.table [], rest)
        | start =>
          (readInline (fun cs => readValue depth cs) cs.length [] start).map fun r =>
            (.table (entriesToValues r.1), r.2)
    | _ => (scalar? (token cs).1).map fun v => (v, (token cs).2)

/-! ## Documents -/

/-- What a line of a document says. -/
inductive Line
  | blank
  | assignment (key : Key) (value : Value)
  | table (key : Key)
  | element (key : Key)

/-- Reads a line of a document. -/
def readLine (cs : List Char) : Option (Line × List Char) :=
  match skipSpaces cs with
  | '[' :: '[' :: rest =>
    match readKey rest with
    | some (key, ']' :: ']' :: rest) => (lineEnd? rest).map fun rest => (.element key, rest)
    | _ => none
  | '[' :: rest =>
    match readKey rest with
    | some (key, ']' :: rest) => (lineEnd? rest).map fun rest => (.table key, rest)
    | _ => none
  | start =>
    match lineEnd? start with
    | some rest => some (.blank, rest)
    | none =>
      match readAssignment (readValue nestingLimit) start with
      | some (key, v, rest) => (lineEnd? rest).map fun rest => (.assignment key v, rest)
      | none => none

/-- Reads the lines of a document, at most `n`. -/
def readLines : Nat → List Char → Option (List Line)
  | _, [] => some []
  | 0, _ => none
  | n + 1, cs =>
    match readLine cs with
    | some (line, rest) => (readLines n rest).map (line :: ·)
    | none => none

/-- Builds a document from its lines. The header in force is the path of the table that assignments go to. -/
def build (header : List String) (es : Entries) : List Line → Option Entries
  | [] => some es
  | .blank :: lines => build header es lines
  | .assignment (path, key) v :: lines => (es.assign header path key v).bind fun es => build header es lines
  | .table (path, key) :: lines => (es.openTable path key).bind fun es => build (path ++ [key]) es lines
  | .element (path, key) :: lines => (es.openElement path key).bind fun es => build (path ++ [key]) es lines

/-- Leaves out a byte order mark. -/
def dropMark : List Char → List Char
  | '\uFEFF' :: cs => cs
  | cs => cs

/-- The top level entries of a document. -/
def read? (s : String) : Option (List (String × Value)) :=
  let cs := dropMark s.toList
  (readLines cs.length cs).bind fun lines => (build [] [] lines).map entriesToValues

end DocRunner.Toml
