import DocRunner.CommandLine.Basic

/-!
# Reading a command line

`CommandLine.read words` reads words from left to right. A word is an option, the value of the option before it,
or a target; behind `--` all words are targets. What was read last is `Pending` until the next option or target
that is known: only then it is checked, so that an unknown argument right behind it is reported first.
-/

namespace DocRunner

/-- What was read last and is not checked yet. -/
inductive Pending
  | nothing
  /-- Names of targets. -/
  | targets (names : List String)
  /-- An option, and its value if that was read. -/
  | option (p : Parameter) (value : Option String)
  deriving DecidableEq, Repr

/-- A word of a command line, by its first characters. -/
inductive Word
  /-- The word `--`. -/
  | separator
  /-- Two hyphens and a name, with the text behind an equals sign if there is one. -/
  | long (name : String) (value : Option String)
  /-- A hyphen and a letter, with the text behind it if there is any. An equals sign in
  front of that is left out. -/
  | short (letter : Char) (value : Option String)
  /-- Any other word. -/
  | plain
  deriving DecidableEq, Repr

namespace Word

/-- The text in front of the first equals sign, and the text behind it. -/
def splitAtEquals : List Char → List Char × Option (List Char)
  | [] => ([], none)
  | c :: cs =>
    if c = '=' then ([], some cs)
    else ((c :: (splitAtEquals cs).1), (splitAtEquals cs).2)

/-- What follows the letter of a short option. -/
def attached : List Char → Option String
  | [] => none
  | '=' :: cs => some (String.ofList cs)
  | cs => some (String.ofList cs)

/-- What kind of word a word is. -/
def ofString (word : String) : Word :=
  match word.toList with
  | ['-', '-'] => separator
  | '-' :: '-' :: cs => long (String.ofList (splitAtEquals cs).1) ((splitAtEquals cs).2.map String.ofList)
  | '-' :: c :: cs => short c (attached cs)
  | _ => plain

end Word

namespace CommandLine

/-- Takes what is pending. -/
def settle (cl : CommandLine) : Pending → Except UsageError CommandLine
  | .nothing => .ok cl
  | .targets names => cl.addTargets names
  | .option p none => .error (.missingValue p)
  | .option p (some v) => cl.give p v

/-- Reads words from left to right. -/
def readWords (cl : CommandLine) (pending : Pending) : List String → Except UsageError CommandLine
  | [] => cl.settle pending
  | word :: rest =>
    if pending = .option .opts none then cl.readWords (.option .opts (some word)) rest
    else match Word.ofString word with
      | .separator => (cl.settle pending).bind fun cl => cl.addTargets rest
      | .long "help" none => (cl.settle pending).bind fun _ => .error (.help true)
      | .long "help" (some value) => .error (.unexpectedValue value)
      | .long name value =>
        match Parameter.ofName? name with
        | none => .error (.unknown ("--" ++ name))
        | some p => (cl.settle pending).bind fun cl =>
          match value with
          | none => cl.readWords (.option p none) rest
          | some v => (cl.give p v).bind fun cl => cl.readWords .nothing rest
      | .short 'h' _ => (cl.settle pending).bind fun _ => .error (.help false)
      | .short 'C' value => (cl.settle pending).bind fun cl =>
        match value with
        | none => cl.readWords (.option .directory none) rest
        | some v => (cl.give .directory v).bind fun cl => cl.readWords .nothing rest
      | .short c _ => .error (.unknown (String.ofList ['-', c]))
      | .plain =>
        match pending with
        | .option p none => cl.readWords (.option p (some word)) rest
        | .targets names => cl.readWords (.targets (names ++ [word])) rest
        | _ => (cl.settle pending).bind fun cl => cl.readWords (.targets [word]) rest

/-- Reads the words behind the program's name. -/
def read (words : List String) : Except UsageError CommandLine :=
  readWords {} .nothing words

end CommandLine

end DocRunner
