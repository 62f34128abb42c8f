import DocRunner.Settings.File
import DocRunner.Shell

/-!
# Settling the settings of a run

`Settings.resolve` stacks the layers of a run: the defaults, the settings file, the variables and the flags. It
fails if a file that was asked for is missing, if a file cannot be read or does not hold settings, or if the
variable for the port holds no port, and reports the first of these.
-/

namespace DocRunner

/-- What settling leaves: the settings, or why there are none, and what it printed. -/
structure Resolution where
  result : Except Failure Settings
  events : List Event

namespace Settings

/-- The settings file where none is asked for. It may be missing. -/
def fileName : String := "doctasks.toml"

/-- The layer of the text of a settings file. -/
def layerOf (path : String) (text : Except Refusal String) : Except Failure Layer :=
  match text with
  | .error why => .error (.unreadableFile why)
  | .ok text =>
    match Layer.ofFile? text with
    | .error why => .error (.settingsInvalid path why)
    | .ok l => .ok l

/-- The layer of the settings file. -/
def fileLayer (sh : Shell) (t : Tree) (config : Option String) : Except Failure Layer :=
  let path := sh.path (config.getD fileName)
  if t.isThere [] path then layerOf path (t.readText [] path)
  else if config.isSome then .error (.settingsNotFound path)
  else .ok {}

/-- What is said about the settings file. -/
def fileNote (sh : Shell) (t : Tree) (config : Option String) : List Event :=
  let path := sh.path (config.getD fileName)
  if t.isThere [] path then sh.note ("Using config file: " ++ path) else []

/-- Stacks the layers of file, variables and flags on the defaults. -/
def stack (file vars : Layer) (flags : Flags) : Settings :=
  ((default.overlay file).overlay vars).overlay flags.layer

/-- Settles the settings of a run. -/
def resolve (sh : Shell) (t : Tree) (config : Option String) (flags : Flags) : Resolution where
  events := fileNote sh t config
  result :=
    match fileLayer sh t config with
    | .error why => .error why
    | .ok file =>
      match Layer.ofVariables? sh.vars with
      | .error why => .error why
      | .ok vars => .ok (stack file vars flags)

end Settings

end DocRunner
