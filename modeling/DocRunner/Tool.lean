/-!
# Tools

The programs that the tasks start are known by what they do to the workspace: a `Tool` prints texts, writes
files and ends. A write names its file relative to the directory the tool runs in; a path may start with the
tool's last argument or with the variable `BUILDDIR`.
-/

namespace DocRunner

/-- How a tool ends. -/
inductive Ending
  | exited (code : Nat)
  | killed
  deriving DecidableEq, Repr

/-- A file that a tool writes. -/
structure Write where
  path : String
  bytes : ByteArray

/-- A program, known by its name and by what it does. -/
structure Tool where
  name : String
  writes : List Write
  stdout : String
  stderr : String
  ending : Ending

/-- What stands in the file of a tool. -/
def Tool.script (tool : Tool) : String :=
  "#!/bin/sh\nexec " ++ tool.name ++ "\n"

namespace Write

/-- The path of a write, when the placeholder it may start with is filled in. -/
def target (w : Write) (lastArgument buildDir : String) : String :=
  let rest (placeholder : String) := w.path.toList.drop placeholder.length
  if "\x7blast\x7d".toList.isPrefixOf w.path.toList then
    lastArgument ++ String.ofList (rest "\x7blast\x7d")
  else if "\x7bBUILDDIR\x7d".toList.isPrefixOf w.path.toList then
    buildDir ++ String.ofList (rest "\x7bBUILDDIR\x7d")
  else w.path

end Write

end DocRunner
