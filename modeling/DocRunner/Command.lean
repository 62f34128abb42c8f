import DocRunner.Outcome
import DocRunner.Shell

/-!
# Commands

* `Command.text c` : a command as it is echoed and named in messages;
* `Shell.find sh t c` : the tool that a command starts and the directory it starts in, or why it cannot;
* `Shell.run sh c t` : echoes a command, runs its tool to its end, and fails if that does not exit with 0.
-/

namespace DocRunner

/-- A program with arguments, and variables that are set for it alone. -/
structure Command where
  program : String
  arguments : List String
  vars : Variables

namespace Command

/-- An argument as it is shown: in quotes if it holds white space. -/
def showArgument (argument : String) : String :=
  if argument.toList.any Text.isAsciiBlank then Text.argumentStyle.quote argument else argument

/-- A command as it is shown. -/
def text (c : Command) : String :=
  c.program ++ String.join (c.arguments.map fun argument => " " ++ showArgument argument)

end Command

namespace Tool

/-- The tree after a tool has written its files. -/
def write (tool : Tool) (directory : Location) (vars : Variables) (arguments : List String) (t : Tree) : Tree :=
  tool.writes.foldl (fun t w =>
    t.writeFile directory (w.target (arguments.getLast?.getD "") ((vars.get? "BUILDDIR").getD "")) w.bytes) t

/-- What can be seen of a tool: its call, then what it prints. -/
def events (tool : Tool) (directory : Location) (vars : Variables) (arguments : List String) : List Event :=
  [.call ⟨tool.name, directory, vars, arguments⟩, .toolPrint tool.stdout, .toolComplain tool.stderr]

end Tool

namespace Shell

/-- The tool at a path. -/
def toolAt (t : Tree) (directory : Location) (path : String) : Except Refusal Tool :=
  match t.resolve directory path with
  | .error why => .error why
  | .ok place =>
    match t.lookup place with
    | some (.tool program) => .ok program
    | _ => .error .denied

/-- Looks for a program in directories, one after the other. A directory without it is passed over. One that has
it, but not as a program, is remembered, and so is the last refusal. -/
def search (t : Tree) (directory : Location) (name : String) (denied : Bool) (last : Refusal) :
    List String → Except Refusal Tool
  | [] => .error (if denied then .denied else last)
  | dir :: dirs =>
    match toolAt t directory (Path.join dir name) with
    | .ok tool => .ok tool
    | .error .notFound => search t directory name denied .notFound dirs
    | .error .notDirectory => search t directory name denied .notDirectory dirs
    | .error .denied => search t directory name true last dirs
    | .error why => .error why

/-- The directories in which programs are looked for. -/
def searchPath (vars : Variables) : List String :=
  (Path.piecesAt ':' ((vars.get? "PATH").getD "/bin:/usr/bin").toList).map String.ofList

/-- Whether a NUL stands anywhere in a command or in what it takes from the shell. -/
def hasNul (sh : Shell) (c : Command) (vars : Variables) : Bool :=
  (sh.directory :: c.program :: c.arguments ++ vars.flatMap fun v => [v.1, v.2]).any (·.toList.contains '\x00')

/-- The variables that the tool of a command sees. -/
def varsFor (sh : Shell) (c : Command) : Variables :=
  sh.vars.setAll c.vars

/-- The directory that a command starts in and the tool that it starts. A program named without a slash is
looked for in the search path, any other in the working directory. -/
def find (sh : Shell) (t : Tree) (c : Command) : Except Refusal (Location × Tool) :=
  let vars := sh.varsFor c
  if sh.hasNul c vars then .error .nulInCommand
  else match t.resolveDirectory [] sh.directory with
    | .error why => .error why
    | .ok directory =>
      let tool :=
        if c.program = "" then .error .notFound
        else if c.program.toList.contains '/' then toolAt t directory c.program
        else search t directory c.program false .notFound (searchPath vars)
      tool.map fun tool => (directory, tool)

/-- Runs a command to its end, echoed first. -/
def run (sh : Shell) (c : Command) (t : Tree) : Outcome :=
  Outcome.after (sh.echo c.text) <|
    match sh.find t c with
    | .error why => .fail (.notStarted c.text why) t
    | .ok (directory, tool) =>
      let vars := sh.varsFor c
      let result := match tool.ending with
        | .exited 0 => .ok ()
        | .exited code => .error (.stepFailed c.text (some code))
        | .killed => .error (.stepFailed c.text none)
      ⟨result, tool.events directory vars c.arguments, tool.write directory vars c.arguments t⟩

end Shell

end DocRunner
