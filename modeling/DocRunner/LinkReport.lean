import DocRunner.Json.Skip
import DocRunner.Shell
import DocRunner.Text.Lines

/-!
# Link reports

A link report has a line for each link, a JSON object with the fields of `LinkReport.Entry`; fields of other
names do not count, and an array with the values in order does as well.

* `Entry.ofLine? line` : the entry of a line, or what is wrong with it first;
* `summary path broken` : what is printed about the broken links of a report.
-/

namespace DocRunner.LinkReport

open Json

/-- A link, where it stands and how it fared. -/
structure Entry where
  filename : String
  lineno : Option UInt64
  status : String
  uri : String
  info : String
  deriving DecidableEq, Repr

/-- The fields of an entry. -/
inductive Field
  | filename
  | lineno
  | status
  | uri
  | info
  deriving DecidableEq, Repr

namespace Field

/-- The fields in order. -/
def all : List Field := [filename, lineno, status, uri, info]

/-- The name of a field. -/
def name : Field → String
  | filename => "filename"
  | lineno => "lineno"
  | status => "status"
  | uri => "uri"
  | info => "info"

end Field

/-- The fields of an entry that were read so far. -/
structure Draft where
  filename : Option String := none
  lineno : Option (Option UInt64) := none
  status : Option String := none
  uri : Option String := none
  info : Option String := none
  deriving DecidableEq, Repr

namespace Draft

/-- Whether a field was read. -/
def has (d : Draft) : Field → Bool
  | .filename => d.filename.isSome
  | .lineno => d.lineno.isSome
  | .status => d.status.isSome
  | .uri => d.uri.isSome
  | .info => d.info.isSome

/-- The entry, if all fields are there that have to be. -/
def entry (d : Draft) : Except DocumentError Entry :=
  match d.filename, d.status, d.uri with
  | some filename, some status, some uri =>
    .ok ⟨filename, d.lineno.getD none, status, uri, d.info.getD ""⟩
  | none, _, _ => .error (.mismatch (.missingField "filename"))
  | _, none, _ => .error (.mismatch (.missingField "status"))
  | _, _, none => .error (.mismatch (.missingField "uri"))

end Draft

/-! ## Values -/

/-- What is wrong with a value that does not fit, looked at by its first character. -/
def misfit (expected : String) (cs : List Char) : DocumentError :=
  let found (shape : Shape) : DocumentError := .mismatch (.wrongType shape expected)
  let word (word : String) (shape : Shape) : DocumentError :=
    if (afterWord? word.toList cs).isSome then found shape else .malformed
  match cs with
  | 'n' :: _ => word "null" .null
  | 't' :: _ => word "true" (.boolean true)
  | 'f' :: _ => word "false" (.boolean false)
  | '[' :: _ => found .sequence
  | '\x7b' :: _ => found .map
  | '\x22' :: rest =>
    match readText rest with
    | some r => found (.text (String.ofList r.1))
    | none => .malformed
  | _ =>
    match (readNumeral cs).bind fun r => r.1.shape? with
    | some shape => found shape
    | none => .malformed

/-- Reads a text. -/
def readString (cs : List Char) : Except DocumentError (String × List Char) :=
  match cs with
  | '\x22' :: rest =>
    match readText rest with
    | some r => .ok (String.ofList r.1, r.2)
    | none => .error .malformed
  | _ => .error (misfit "a string" cs)

/-- Reads a line number, which may be null. -/
def readLineno (cs : List Char) : Except DocumentError (Option UInt64 × List Char) :=
  match cs with
  | 'n' :: _ =>
    match afterWord? "null".toList cs with
    | some rest => .ok (none, rest)
    | none => .error .malformed
  | _ =>
    match readNumeral cs with
    | none => .error (misfit "u64" cs)
    | some (numeral, rest) =>
      match numeral.integer? with
      | none => .error (misfit "u64" cs)
      | some n =>
        if 0 ≤ n then .ok (some (UInt64.ofNat n.toNat), rest) else .error (.mismatch (.outOfRange n "u64"))

/-- Reads the value of a field. -/
def readField (d : Draft) (f : Field) (cs : List Char) : Except DocumentError (Draft × List Char) :=
  match f with
  | .filename => (readString cs).map fun r => ({ d with filename := some r.1 }, r.2)
  | .lineno => (readLineno cs).map fun r => ({ d with lineno := some r.1 }, r.2)
  | .status => (readString cs).map fun r => ({ d with status := some r.1 }, r.2)
  | .uri => (readString cs).map fun r => ({ d with uri := some r.1 }, r.2)
  | .info => (readString cs).map fun r => ({ d with info := some r.1 }, r.2)

/-! ## Objects and arrays -/

/-- Reads the value of a key, behind the key. A field must not come twice. -/
def readMember (d : Draft) (key : String) (cs : List Char) : Except DocumentError (Draft × List Char) :=
  match Field.all.find? (·.name = key) with
  | some f =>
    if d.has f then .error (.mismatch (.duplicateField key))
    else match skipColon cs with
      | some rest => readField d f rest
      | none => .error .malformed
  | none =>
    match (skipColon cs).bind skipValue with
    | some rest => .ok (d, rest)
    | none => .error .malformed

/-- Reads at most `n` members of an object, from the quote of a key up to the closing brace. -/
def readMembers : Nat → Draft → List Char → Except DocumentError (Draft × List Char)
  | 0, _, _ => .error .malformed
  | n + 1, d, cs =>
    match cs with
    | '\x22' :: rest =>
      match readText rest with
      | none => .error .malformed
      | some key =>
        match readMember d (String.ofList key.1) key.2 with
        | .error why => .error why
        | .ok (d, rest) =>
          match skipSpaces rest with
          | ',' :: rest => readMembers n d (skipSpaces rest)
          | '\x7d' :: rest => .ok (d, rest)
          | _ => .error .malformed
    | _ => .error .malformed

/-- Reads an object behind its opening brace. -/
def readObject (cs : List Char) : Except DocumentError (Entry × List Char) :=
  match skipSpaces cs with
  | '\x7d' :: rest => (Draft.entry {}).map fun entry => (entry, rest)
  | start =>
    match readMembers cs.length {} start with
    | .error why => .error why
    | .ok (d, rest) => d.entry.map fun entry => (entry, rest)

/-- What an array with too few elements gives, when the field of number `n` is the first without one. -/
def shortArray (d : Draft) (n : Nat) : Except DocumentError Entry :=
  match d.entry with
  | .ok entry => .ok entry
  | .error _ => .error (.mismatch (.wrongLength (if n = 1 then 2 else n) "struct LinkReport with 5 elements"))

/-- Reads the elements of an array for the fields from number `n` on. The comma in front of an
element is read with it. -/
def readElements (d : Draft) (n : Nat) : List Field → List Char → Except DocumentError (Entry × List Char)
  | [], cs =>
    match skipSpaces cs with
    | ']' :: rest => d.entry.map fun entry => (entry, rest)
    | _ => .error .malformed
  | f :: fields, cs =>
    match skipSpaces cs with
    | ']' :: rest => (shortArray d n).map fun entry => (entry, rest)
    | start =>
      let element := if n = 0 then some start else match start with
        | ',' :: rest => some (skipSpaces rest)
        | _ => none
      match element with
      | none => .error .malformed
      | some cs =>
        match readField d f cs with
        | .error why => .error why
        | .ok (d, rest) => readElements d (n + 1) fields rest

namespace Entry

/-- The entry of a line, or what is wrong with it first. -/
def ofLine? (line : String) : Except DocumentError Entry :=
  let read := match skipSpaces line.toList with
    | '\x7b' :: rest => readObject rest
    | '[' :: rest => readElements {} 0 Field.all rest
    | start => .error (misfit "struct LinkReport" start)
  match read with
  | .error why => .error why
  | .ok (entry, rest) => if skipSpaces rest = [] then .ok entry else .error .malformed

/-- Whether a link is broken. -/
def isBroken (e : Entry) : Bool := e.status == "broken"

/-- How a broken link is listed. -/
def record (e : Entry) : String :=
  let place := match e.lineno with
    | some n => e.filename ++ ":" ++ toString n.toNat
    | none => e.filename
  "  " ++ place ++ ": " ++ e.uri ++ (if e.info = "" then "" else " (" ++ e.info ++ ")") ++ "\n"

end Entry

/-! ## The summary -/

/-- The lines of a report that are not blank. -/
def entryLines (report : String) : List String :=
  (Text.lines report).filter (!Text.isBlankText ·)

/-- The broken links of a report. -/
def broken (report : String) : List Entry :=
  (entryLines report).filterMap fun line =>
    match Entry.ofLine? line with
    | .ok entry => if entry.isBroken then some entry else none
    | .error _ => none

/-- What is said about the lines of a report that are no entries. -/
def complaints (sh : Shell) (report : String) : List Event :=
  (entryLines report).flatMap fun line =>
    match Entry.ofLine? line with
    | .ok _ => []
    | .error why => sh.note ("Skipping unreadable report line: " ++ why.message "JSON syntax error")

/-- What is printed about broken links. -/
def summary (path : String) (broken : List Entry) : String :=
  if broken.isEmpty then "No broken links reported in " ++ path ++ ".\n"
  else "Found " ++ toString broken.length ++ " broken link(s):\n" ++ String.join (broken.map Entry.record)

/-- What is said and printed about a report. -/
def summarize (sh : Shell) (path report : String) : List Event :=
  complaints sh report ++ [.print (summary path (broken report))]

end DocRunner.LinkReport
