import DocRunner.Path

/-!
# Settings

`Settings` are what the targets share: the tools to start, their options, the directories and the port.
`Settings.default` holds where nothing else is said. The places below the build directory and the separate
options follow from them.
-/

namespace DocRunner

/-- What the targets share. -/
structure Settings where
  /-- The documentation builder. -/
  builder : String
  /-- Further options of the builder, separated by blanks. -/
  options : String
  /-- The options that make a build strict, separated by blanks. -/
  strictOptions : String
  /-- Where the documents are. -/
  sourceDir : String
  /-- Where all output goes. -/
  buildDir : String
  /-- The preview server. -/
  liveServer : String
  /-- The port of the preview server. -/
  port : UInt16
  /-- The script that checks the links. -/
  linkcheckScript : String
  deriving DecidableEq, Repr

namespace Settings

/-- The settings where nothing else is said. -/
def default : Settings where
  builder := "sphinx-build"
  options := ""
  strictOptions := "-n -T -W"
  sourceDir := "src"
  buildDir := "build"
  liveServer := "sphinx-autobuild"
  port := 8888
  linkcheckScript := "scripts/linkcheck.sh"

/-- The builder's cache. -/
def doctreeDir (s : Settings) : String := Path.join s.buildDir "doctrees"

/-- Where the pages go. -/
def htmlDir (s : Settings) : String := Path.join s.buildDir "html"

/-- Where the result of the spell check goes. -/
def spellingDir (s : Settings) : String := Path.join s.buildDir "spelling"

/-- Where the link check leaves its logs. -/
def linkcheckDir (s : Settings) : String := Path.join s.buildDir "linkcheck"

/-- The further options, one by one. -/
def optionArguments (s : Settings) : List String := Text.words s.options

/-- The strict options, one by one. -/
def strictArguments (s : Settings) : List String := Text.words s.strictOptions

end Settings

end DocRunner
