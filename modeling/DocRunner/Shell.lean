import DocRunner.Event
import DocRunner.Tree.Access

/-!
# The shell

A `Shell` is what a run takes from its surroundings: a working directory, variables and a log level. The
working directory is kept as the text it was given by: `Shell.path` joins to it, and links and `..` in it are
resolved anew each time.
-/

namespace DocRunner

/-- The working directory, the variables and the log level of a run. -/
structure Shell where
  directory : String
  vars : Variables
  logLevel : Option String

namespace Shell

/-- The variable that sets the log level. -/
def logLevelVariable : String := "DOCTASKS_LOG_LEVEL"

/-- The shell of a program that starts in a directory with an environment. -/
def start (directory : String) (environment : Variables) : Shell :=
  ⟨directory, environment, environment.get? logLevelVariable⟩

/-- Only the log level `quiet` leaves out informational lines and echoes. -/
def isQuiet (sh : Shell) : Bool :=
  sh.logLevel == some "quiet"

/-- A run is quiet at the log level `quiet`, and at no other. -/
theorem isQuiet_iff (sh : Shell) : sh.isQuiet = true ↔ sh.logLevel = some "quiet" := beq_iff_eq

/-- A program is quiet exactly if the variable of the log level is set to `quiet`. -/
theorem isQuiet_start_iff (directory : String) (environment : Variables) :
    (start directory environment).isQuiet = true ↔ environment.get? "DOCTASKS_LOG_LEVEL" = some "quiet" :=
  isQuiet_iff _

/-- A path read in the working directory, as a text. -/
def path (sh : Shell) (p : String) : String :=
  Path.join sh.directory p

/-- An informational line. -/
def note (sh : Shell) (line : String) : List Event :=
  if sh.isQuiet then [] else [.note line]

/-- The echo of a command. -/
def echo (sh : Shell) (command : String) : List Event :=
  if sh.isQuiet then [] else [.echo command]

end Shell

end DocRunner
