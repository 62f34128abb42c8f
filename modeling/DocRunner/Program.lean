import DocRunner.CommandLine.Help
import DocRunner.CommandLine.Reader
import DocRunner.Run
import DocRunner.Settings.Resolve

/-!
# The program

`Program.launch shell t words` is what the program does with the words of its command line, in phases: it reads
the words, takes up its shell, changes to the directory that was asked for, settles the settings, and runs the
targets. The `Verdict` tells where it ended. Nothing but the overview is printed, and nothing else is looked at,
if no target but `help` is asked for. `Program.run sh t words` is the same where there is a shell, that is,
where the system tells the working directory.
-/

namespace DocRunner

/-- Where the program ended, and why. -/
inductive Verdict
  | usageError (why : UsageError)
  | helpOnly
  | noShell (why : Failure)
  | badDirectory (why : Failure)
  | badSettings (why : Failure)
  | failed (target : Target) (why : Failure)
  | succeeded
  deriving DecidableEq

namespace Verdict

/-- The exit code of the program. -/
def exitCode : Verdict → Int
  | usageError why => why.exitCode
  | helpOnly => 0
  | noShell _ => 1
  | badDirectory _ => 1
  | badSettings _ => 1
  | failed _ why => why.exitCode
  | succeeded => 0

/-- What the program says at its end. -/
def events : Verdict → List Event
  | usageError (.help long) => [.print (UsageError.help long).shown]
  | usageError why => [.complain (why.shown ++ "\n")]
  | helpOnly => [.print usage]
  | noShell why => [.complain ("Error creating shell: " ++ why.message ++ "\n")]
  | badDirectory why => [.complain ("Error changing directory: " ++ why.message ++ "\n")]
  | badSettings why => [.complain ("Error loading configuration: " ++ why.message ++ "\n")]
  | failed target why => [.complain ("Error running " ++ target.name ++ ": " ++ why.message ++ "\n")]
  | succeeded => []

end Verdict

/-- What the program leaves. -/
structure ProgramOutcome where
  verdict : Verdict
  events : List Event
  tree : Tree

namespace Program

/-- Ends with a verdict. -/
def finish (verdict : Verdict) (events : List Event) (t : Tree) : ProgramOutcome :=
  ⟨verdict, events ++ verdict.events, t⟩

/-- The shell of a program, if the system tells its working directory. -/
def openShell (environment : Variables) : Except Refusal String → Except Failure Shell
  | .error why => .error (.noCurrentDirectory why)
  | .ok directory => .ok (Shell.start directory environment)

/-- The shell in the directory that was asked for. -/
def enter (sh : Shell) (t : Tree) : Option String → Except Failure Shell
  | none => .ok sh
  | some dir => sh.changeDirectory t dir

/-- Runs the targets of a command line, when the settings are settled. -/
def perform (sh : Shell) (s : Settings) (targets : List Target) (t : Tree) : ProgramOutcome :=
  let o := runAll sh s targets t
  match o.result with
  | .error (target, why) => finish (.failed target why) o.events o.tree
  | .ok () => finish .succeeded o.events o.tree

/-- Settles the settings and runs the targets. -/
def work (sh : Shell) (t : Tree) (cl : CommandLine) : ProgramOutcome :=
  let settled := Settings.resolve sh t cl.config cl.flags
  match settled.result with
  | .error why => finish (.badSettings why) settled.events t
  | .ok s =>
    let o := perform sh s cl.targets t
    { o with events := settled.events ++ o.events }

/-- Changes to the directory that was asked for, and works there. -/
def workThere (sh : Shell) (t : Tree) (cl : CommandLine) : ProgramOutcome :=
  match enter sh t cl.directory with
  | .error why => finish (.badDirectory why) [] t
  | .ok sh => work sh t cl

/-- Does what a command line asks for. -/
def serveCommandLine (shell : Except Failure Shell) (t : Tree) (cl : CommandLine) : ProgramOutcome :=
  if cl.isHelpOnly then finish .helpOnly [] t
  else match shell with
    | .error why => finish (.noShell why) [] t
    | .ok sh => workThere sh t cl

/-- Does what the words of a command line ask for. -/
def launch (shell : Except Failure Shell) (t : Tree) (words : List String) : ProgramOutcome :=
  match CommandLine.read words with
  | .error why => finish (.usageError why) [] t
  | .ok cl => serveCommandLine shell t cl

/-- Does in a shell what the words of a command line ask for. -/
def run (sh : Shell) (t : Tree) (words : List String) : ProgramOutcome :=
  launch (.ok sh) t words

end Program

end DocRunner
