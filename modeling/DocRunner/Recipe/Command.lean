import DocRunner.Command
import DocRunner.Settings.Basic

/-!
# The commands of the recipes

What is started to build the pages (`Settings.htmlCommand`), to check the spelling (`Settings.spellCommand`), to
serve the pages (`Settings.liveCommand`) and to check the links (`Settings.linkcheckCommand`). The arguments
come from the settings alone.
-/

namespace DocRunner.Settings

/-- The arguments that all builds start with. -/
def buildArguments (s : Settings) (format : String) : List String :=
  ["-b", format, "-d", s.doctreeDir] ++ s.optionArguments

/-- Builds the pages. A strict build has further options. -/
def htmlCommand (s : Settings) (strict : Bool) : Command where
  program := s.builder
  arguments := s.buildArguments "html" ++ (if strict then s.strictArguments else []) ++ [s.sourceDir, s.htmlDir]
  vars := []

/-- Checks the spelling. -/
def spellCommand (s : Settings) : Command where
  program := s.builder
  arguments := s.buildArguments "spelling" ++ ["-W", s.sourceDir, s.spellingDir]
  vars := []

/-- Serves the pages. -/
def liveCommand (s : Settings) : Command where
  program := s.liveServer
  arguments := s.buildArguments "html" ++ [s.sourceDir, s.htmlDir, "--port", toString s.port.toNat]
  vars := []

/-- Checks the links. The script gets no arguments and learns by variables where the pages are. -/
def linkcheckCommand (sh : Shell) (s : Settings) : Command where
  program := sh.path s.linkcheckScript
  arguments := []
  vars := [("BUILDDIR", s.buildDir), ("SOURCEDIR", s.sourceDir)]

end DocRunner.Settings
