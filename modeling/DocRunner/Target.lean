/-!
# Targets

A `Target` is a named task. `Target.all` lists them in the order of the help, `Target.name` and
`Target.summary` are what the help shows, `Target.ofName?` reads a name, and `usage` is the overview that
the target `help` prints.
-/

namespace DocRunner

/-- A named task. -/
inductive Target
  | help
  | clean
  | html
  | stricthtml
  | linkcheck
  | spellcheck
  | livehtml
  deriving DecidableEq, Repr

namespace Target

/-- The targets in the order of the help. -/
def all : List Target := [help, clean, html, stricthtml, linkcheck, spellcheck, livehtml]

/-- The name of a target. -/
def name : Target → String
  | help => "help"
  | clean => "clean"
  | html => "html"
  | stricthtml => "stricthtml"
  | linkcheck => "linkcheck"
  | spellcheck => "spellcheck"
  | livehtml => "livehtml"

/-- What a target does, in one line. -/
def summary : Target → String
  | help => "Show the list of targets"
  | clean => "Remove everything under the build directory"
  | html => "Build standalone HTML pages"
  | stricthtml => "Clean, then build HTML with warnings as errors"
  | linkcheck => "Check all external links with the helper script"
  | spellcheck => "Check spelling, any misspelled word fails"
  | livehtml => "Serve HTML with live reload until interrupted"

/-- The target of a name. -/
def ofName? (s : String) : Option Target :=
  all.find? (·.name = s)

end Target

/-- A text with spaces behind it, up to a width. -/
def padded (width : Nat) (s : String) : String :=
  s ++ String.ofList (List.replicate (width - s.length) ' ')

/-- The overview of the targets. -/
def usage : String :=
  "Usage: doctasks [OPTIONS] [TARGET]...\n\nTargets:\n"
    ++ String.join (Target.all.map fun t => "  " ++ padded 12 t.name ++ t.summary ++ "\n")
    ++ "\nRun `doctasks --help` for the configuration options.\n"

end DocRunner
