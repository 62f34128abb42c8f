import DocRunner.Program

/-!
# The command line

`main` takes the words, the working directory and the variables of its process, and lets `Program.launch`
decide. The file tree it works on is in memory: it holds the way to the working directory and the settings file.
Tools are part of a tree as well, so that a target ends where it would start one that is not there: this shows
the settings and the commands that would be run, and touches nothing.
-/

namespace DocRunner

/-- The variables that a run looks at. -/
def variableNames : List String :=
  ["DOCTASKS_LOG_LEVEL", "SPHINXBUILD", "SPHINXOPTS", "SOURCEDIR", "BUILDDIR", "SPHINXAUTOBUILD", "PORT", "PATH"]

/-- Those variables of the process that are set. -/
def environment : IO Variables :=
  variableNames.filterMapM fun name => do return (← IO.getEnv name).map fun value => (name, value)

/-- The working directory of the process, if the system tells it. -/
def currentDirectory : IO (Except Refusal String) := do
  try
    return .ok (← IO.currentDir).toString
  catch
    | .permissionDenied _ _ _ => return .error .denied
    | _ => return .error .notFound

/-- The text of the settings file that a command line names, and where it stands. -/
def settingsText (directory : String) (words : List String) : String × String :=
  match CommandLine.read words with
  | .error _ => (directory, Settings.fileName)
  | .ok cl => (Path.join directory (cl.directory.getD "."), cl.config.getD Settings.fileName)

/-- A tree with the way to a directory and, if it can be read, the settings file. -/
def snapshot (directory : String) (words : List String) : IO Tree := do
  let (start, file) := settingsText directory words
  let t := (Tree.empty.place [] directory .directory).place [] start .directory
  try
    let bytes ← IO.FS.readBinFile (Path.join start file)
    return t.place [] (Path.join start file) (.file bytes)
  catch _ => return t

/-- Prints what an event puts on either output. -/
def Event.show (e : Event) : IO Unit := do
  IO.print e.stdout
  IO.eprint e.stderr

end DocRunner

open DocRunner in
/-- The program. -/
def main (words : List String) : IO UInt32 := do
  let directory ← currentDirectory
  let shell := Program.openShell (← environment) directory
  let outcome := Program.launch shell (← snapshot (directory.toOption.getD "") words) words
  outcome.events.forM Event.show
  return UInt32.ofNat outcome.verdict.exitCode.toNat
