import DocRunner.Event
import DocRunner.Failure
import DocRunner.Settings.Basic
import DocRunner.Text.Numeral

/-!
# Layers of settings

A `Layer` gives some of the settings; `Settings.overlay s l` takes what `l` gives and keeps the rest of `s`. The
layers of a run are, from the bottom: the defaults, the settings file, the variables (`Layer.ofVariables?`) and
the flags of the command line (`Flags.layer`).
-/

namespace DocRunner

/-- Some of the settings. -/
structure Layer where
  builder : Option String := none
  options : Option String := none
  strictOptions : Option String := none
  sourceDir : Option String := none
  buildDir : Option String := none
  liveServer : Option String := none
  port : Option UInt16 := none
  linkcheckScript : Option String := none
  deriving DecidableEq, Repr

/-- The settings that the command line can give. -/
structure Flags where
  builder : Option String := none
  options : Option String := none
  sourceDir : Option String := none
  buildDir : Option String := none
  port : Option UInt16 := none
  deriving DecidableEq, Repr

/-- What the command line gives, as a layer. -/
def Flags.layer (f : Flags) : Layer where
  builder := f.builder
  options := f.options
  sourceDir := f.sourceDir
  buildDir := f.buildDir
  port := f.port

namespace Settings

/-- Takes what a layer gives and keeps the rest. -/
def overlay (s : Settings) (l : Layer) : Settings where
  builder := l.builder.getD s.builder
  options := l.options.getD s.options
  strictOptions := l.strictOptions.getD s.strictOptions
  sourceDir := l.sourceDir.getD s.sourceDir
  buildDir := l.buildDir.getD s.buildDir
  liveServer := l.liveServer.getD s.liveServer
  port := l.port.getD s.port
  linkcheckScript := l.linkcheckScript.getD s.linkcheckScript

end Settings

namespace Layer

/-- The value of a variable unless it is empty. -/
def nonempty? (vars : Variables) (name : String) : Option String :=
  (vars.get? name).filter (· ≠ "")

/-- The port that a variable gives, if it is set and not empty. Blanks around the numeral do not count, and
anything else is an error. -/
def portVariable? (vars : Variables) : Except Failure (Option UInt16) :=
  match nonempty? vars "PORT" with
  | none => .ok none
  | some value =>
    match Text.readPort? (Text.trimChars value.toList) with
    | some port => .ok (some port)
    | none => .error (.portInvalid value)

/-- What the variables give. Those that are empty give nothing, but empty options count. -/
def ofVariables? (vars : Variables) : Except Failure Layer :=
  (portVariable? vars).map fun port =>
    { builder := nonempty? vars "SPHINXBUILD"
      options := vars.get? "SPHINXOPTS"
      sourceDir := nonempty? vars "SOURCEDIR"
      buildDir := nonempty? vars "BUILDDIR"
      liveServer := nonempty? vars "SPHINXAUTOBUILD"
      port := port }

end Layer

end DocRunner
