import DocRunner.Settings.Layer
import DocRunner.Target

/-!
# Command lines

A `CommandLine` is what the words behind the program's name ask for: targets, a directory to start in, a
settings file and flags. `Parameter` names what an option can set, `UsageError` what can be wrong, and
`CommandLine.give` sets a parameter, which must not be set already.
-/

namespace DocRunner

/-- What an option of the command line sets. -/
inductive Parameter
  | directory
  | config
  | builder
  | opts
  | sourceDir
  | buildDir
  | port
  deriving DecidableEq, Repr

namespace Parameter

/-- The parameters in the order of the help. -/
def all : List Parameter := [directory, config, builder, opts, sourceDir, buildDir, port]

/-- The name of a parameter behind two hyphens. -/
def name : Parameter → String
  | directory => "directory"
  | config => "config"
  | builder => "builder"
  | opts => "opts"
  | sourceDir => "source-dir"
  | buildDir => "build-dir"
  | port => "port"

/-- What the help calls the value of a parameter. -/
def valueName : Parameter → String
  | directory => "DIRECTORY"
  | config => "CONFIG"
  | builder => "BUILDER"
  | opts => "OPTIONS"
  | sourceDir => "SOURCE_DIR"
  | buildDir => "BUILD_DIR"
  | port => "PORT"

/-- How messages name a parameter. -/
def label (p : Parameter) : String :=
  "--" ++ p.name ++ " <" ++ p.valueName ++ ">"

/-- The parameter of a name. -/
def ofName? (s : String) : Option Parameter :=
  all.find? (·.name = s)

end Parameter

/-- How messages name the targets. -/
def targetsLabel : String := "[TARGETS]..."

/-- Why a word is no port. -/
inductive PortError
  | numeral (why : Text.NumeralError)
  | outOfRange (value : Int)
  deriving DecidableEq, Repr

/-- How a port error reads. -/
def PortError.message : PortError → String
  | numeral why => why.message
  | outOfRange value => toString value ++ " is not in 0..=65535"

/-- What can be wrong with a command line, or that it asks for help. -/
inductive UsageError
  | help (long : Bool)
  | missingValue (p : Parameter)
  | missingTarget
  | badTarget (value : String)
  | badPort (value : String) (why : PortError)
  | unknown (argument : String)
  | repeated (p : Parameter)
  | unexpectedValue (value : String)
  deriving DecidableEq, Repr

/-- What the words of a command line ask for. -/
structure CommandLine where
  targets : List Target := []
  directory : Option String := none
  config : Option String := none
  flags : Flags := {}
  deriving DecidableEq, Repr

namespace CommandLine

/-- A path must not be empty. -/
def pathValue (p : Parameter) (v : String) : Except UsageError String :=
  if v = "" then .error (.missingValue p) else .ok v

/-- A port is a numeral within the range of ports. -/
def portValue (v : String) : Except UsageError UInt16 :=
  match Text.readInt64 v.toList with
  | .error why => .error (.badPort v (.numeral why))
  | .ok n =>
    if 0 ≤ n then
      match Text.toPort? n.toNat with
      | some port => .ok port
      | none => .error (.badPort v (.outOfRange n))
    else .error (.badPort v (.outOfRange n))

/-- A value for a parameter that has none yet. -/
def once {α : Type} (p : Parameter) (old : Option α) (new : Except UsageError α) : Except UsageError (Option α) :=
  match old with
  | some _ => .error (.repeated p)
  | none => new.map some

/-- Sets a parameter, which must not be set already. -/
def give (cl : CommandLine) (p : Parameter) (v : String) : Except UsageError CommandLine :=
  match p with
  | .directory => (once p cl.directory (pathValue p v)).map fun x => { cl with directory := x }
  | .config => (once p cl.config (pathValue p v)).map fun x => { cl with config := x }
  | .builder => (once p cl.flags.builder (.ok v)).map fun x => { cl with flags.builder := x }
  | .opts => (once p cl.flags.options (.ok v)).map fun x => { cl with flags.options := x }
  | .sourceDir => (once p cl.flags.sourceDir (pathValue p v)).map fun x => { cl with flags.sourceDir := x }
  | .buildDir => (once p cl.flags.buildDir (pathValue p v)).map fun x => { cl with flags.buildDir := x }
  | .port => (once p cl.flags.port (portValue v)).map fun x => { cl with flags.port := x }

/-- Adds a target by its name. -/
def addTarget (cl : CommandLine) (name : String) : Except UsageError CommandLine :=
  match Target.ofName? name with
  | some t => .ok { cl with targets := cl.targets ++ [t] }
  | none => .error (if name = "" then .missingTarget else .badTarget name)

/-- Adds targets by their names, up to the first that is none. -/
def addTargets (cl : CommandLine) : List String → Except UsageError CommandLine
  | [] => .ok cl
  | name :: names => (cl.addTarget name).bind fun cl => cl.addTargets names

/-- Whether nothing is asked for but the overview of the targets. -/
def isHelpOnly (cl : CommandLine) : Bool :=
  cl.targets.all (· = .help)

end CommandLine

end DocRunner
