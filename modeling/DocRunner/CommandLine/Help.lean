import DocRunner.CommandLine.Basic
import DocRunner.Text.Lines

/-!
# What is said about command lines

`shortHelp` and `longHelp` are the two forms of the help, and `UsageError.message` is the wording of an
error in a command line.
-/

namespace DocRunner

/-- What a parameter does, in one line. -/
def Parameter.summary : Parameter → String
  | directory => "Run as if started in this directory"
  | config => "Configuration file, `doctasks.toml` is used if present"
  | builder => "Documentation builder executable [env: SPHINXBUILD]"
  | opts => "Extra builder flags, space separated [env: SPHINXOPTS]"
  | sourceDir => "Directory of the documentation sources [env: SOURCEDIR]"
  | buildDir => "Directory for generated output [env: BUILDDIR]"
  | port => "Port of the live preview server [env: PORT]"

/-- The spellings of an option, in the column where the long ones start. -/
def Parameter.spellings (p : Parameter) : String :=
  (if p = .directory then "  -C, " else "      ") ++ p.label

/-- What both forms of the help start with. -/
def helpHead : String :=
  "Build, check and preview the Sphinx documentation\n\nUsage: doctasks [OPTIONS] " ++ targetsLabel
    ++ "\n\nArguments:\n  " ++ targetsLabel

/-- What the targets are for, in one line. -/
def targetsSummary : String := "Targets to run in order, `help` when none are given"

/-- The help with a line for each option. -/
def shortHelp : String :=
  helpHead ++ "  " ++ targetsSummary
    ++ " [possible values: " ++ String.intercalate ", " (Target.all.map Target.name) ++ "]\n\nOptions:\n"
    ++ String.join (Parameter.all.map fun p => padded 33 p.spellings ++ p.summary ++ "\n")
    ++ padded 33 "  -h, --help" ++ "Print help (see more with '--help')\n"

/-- The help with a paragraph for each option and a line for each target. -/
def longHelp : String :=
  let indent := "          "
  helpHead ++ "\n" ++ indent ++ targetsSummary ++ "\n\n" ++ indent ++ "Possible values:\n"
    ++ String.join (Target.all.map fun t => indent ++ "- " ++ padded 12 (t.name ++ ":") ++ t.summary ++ "\n")
    ++ "\nOptions:\n"
    ++ String.join (Parameter.all.map fun p => p.spellings ++ "\n" ++ indent ++ p.summary ++ "\n\n")
    ++ "  -h, --help\n" ++ indent ++ "Print help (see a summary with '-h')\n"

namespace UsageError

/-- How a usage error reads, or the help that was asked for. -/
def message : UsageError → String
  | help long => if long then longHelp else shortHelp
  | missingValue p => "error: a value is required for '" ++ p.label ++ "' but none was supplied"
  | missingTarget => "error: a value is required for '" ++ targetsLabel ++ "' but none was supplied"
  | badTarget value => "error: invalid value '" ++ value ++ "' for '" ++ targetsLabel ++ "'"
  | badPort value why =>
    "error: invalid value '" ++ value ++ "' for '" ++ Parameter.port.label ++ "': " ++ why.message
  | unknown argument => "error: unexpected argument '" ++ argument ++ "' found"
  | repeated p => "error: the argument '" ++ p.label ++ "' cannot be used multiple times"
  | unexpectedValue value => "error: unexpected value '" ++ value ++ "' for '--help' found; no more were expected"

/-- What is shown of a usage error: its first line. Help is shown as a whole. -/
def shown (e : UsageError) : String :=
  match e with
  | help _ => e.message
  | _ => Text.firstLine e.message

/-- The exit code of a program that ends with a usage error. -/
def exitCode : UsageError → Int
  | help _ => 0
  | _ => 2

end UsageError

end DocRunner
