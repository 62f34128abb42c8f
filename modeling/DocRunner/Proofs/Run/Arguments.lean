import DocRunner.Proofs.Run.Calls
import DocRunner.Proofs.Text.Words

/-!
# The arguments of the tools

* `Target.Passes sh s target program arguments` : the target asks for `program` with exactly these arguments,
  and they are what its tool gets whenever it is started;
* `Target.passes_of_command` : so it is for each target with a command that sets no variables;
* `options_reach_tools` : the words of the options are passed on one by one, between arguments that the builds,
  the spell check and the preview have in common.
-/

namespace DocRunner

namespace Target

variable {sh : Shell} {s : Settings} {target : Target} {program : String} {arguments : List String}

/-- The target asks for a program with exactly these arguments. When its tool is started, that is the one call
that it makes; else it makes none. -/
structure Passes (sh : Shell) (s : Settings) (target : Target) (program : String) (arguments : List String) :
    Prop where
  command : target.command? sh s = some ⟨program, arguments, []⟩
  called : ∀ t d tool, Starts sh s target t ⟨program, arguments, []⟩ d tool →
    callsOf (target.run sh s t).events = [⟨tool.name, d, sh.vars, arguments⟩]
  otherwise : ∀ t, (∀ d tool, ¬ Starts sh s target t ⟨program, arguments, []⟩ d tool) →
    callsOf (target.run sh s t).events = []

theorem passes_of_command (h : target.command? sh s = some ⟨program, arguments, []⟩) :
    Passes sh s target program arguments := by
  have harguments : target.arguments s = arguments := (command?_arguments h).symm
  have honly : ∀ t c d tool, Starts sh s target t c d tool → c = ⟨program, arguments, []⟩ := by
    intro t c d tool hs
    exact Option.some.inj (hs.command.symm.trans h)
  refine ⟨h, fun t d tool hs => ?_, fun t hnot => ?_⟩
  · rcases (target.course sh s t).calls with ⟨-, hnone⟩ | ⟨c, d', tool', hs', hcalls⟩
    · exact absurd hs (hnone _ d tool)
    · obtain ⟨hc, hd, htool⟩ := hs.unique hs'
      rw [hcalls, ← hc, ← hd, ← htool, harguments, sh.varsFor_of_nil rfl]
  · rcases (target.course sh s t).calls with ⟨hcalls, -⟩ | ⟨c, d, tool, hs, -⟩
    · exact hcalls
    · have hc := honly t c d tool hs
      subst hc
      exact absurd hs (hnot d tool)

/-- A strict build passes all that a build passes, and its own options in front of the directories. -/
theorem html_sublist_stricthtml (s : Settings) : (html.arguments s).Sublist (stricthtml.arguments s) := by
  show (s.buildArguments "html" ++ [] ++ [s.sourceDir, s.htmlDir]).Sublist
    (s.buildArguments "html" ++ s.strictArguments ++ [s.sourceDir, s.htmlDir])
  apply List.Sublist.append_right
  apply List.Sublist.append_left
  exact List.nil_sublist _

end Target

open Target

variable {s : Settings} {options strictOptions : List String}

/-- The words of the options reach the tools one by one and in order, and so do the words of the strict options,
as one block. All that is passed besides is the same for all builds, but for the names of the format and of its
directory. Each text comes apart into words in one way. -/
theorem options_reach_tools (sh : Shell) (hoptions : Text.Holds s.options.toList options)
    (hstrict : Text.Holds s.strictOptions.toList strictOptions) :
    Passes sh s .html s.builder (["-b", "html", "-d", s.doctreeDir] ++ options ++ [s.sourceDir, s.htmlDir]) ∧
    Passes sh s .stricthtml s.builder
      (["-b", "html", "-d", s.doctreeDir] ++ options ++ strictOptions ++ [s.sourceDir, s.htmlDir]) ∧
    Passes sh s .livehtml s.liveServer
      (["-b", "html", "-d", s.doctreeDir] ++ options ++ [s.sourceDir, s.htmlDir] ++
        ["--port", toString s.port.toNat]) ∧
    Passes sh s .spellcheck s.builder
      (["-b", "spelling", "-d", s.doctreeDir] ++ options ++ ["-W"] ++ [s.sourceDir, s.spellingDir]) ∧
    (html.arguments s).Sublist (stricthtml.arguments s) ∧
    ∀ text : String, ∃! ws, Text.Holds text.toList ws := by
  have hwords : s.optionArguments = options := Text.words_of_holds hoptions
  have hstrictWords : s.strictArguments = strictOptions := Text.words_of_holds hstrict
  have hbuild : ∀ format, s.buildArguments format = ["-b", format, "-d", s.doctreeDir] ++ options := by
    intro format
    rw [Settings.buildArguments, hwords]
  refine ⟨passes_of_command ?_, passes_of_command ?_, passes_of_command ?_, passes_of_command ?_,
    html_sublist_stricthtml s, Text.existsUnique_holds⟩
  · simp [command?, Settings.htmlCommand, hbuild]
  · simp [command?, Settings.htmlCommand, hbuild, hstrictWords]
  · simp [command?, Settings.liveCommand, hbuild]
  · simp [command?, Settings.spellCommand, hbuild]

/-! ## A sample -/

/-- A builder that does nothing. -/
def idleBuilder : Tool := ⟨"bin/builder", [], "", "", .exited 0⟩

/-- A workspace beside that builder. -/
def optionTree : Tree := ⟨[(["ws"], .directory), (["builder"], .tool idleBuilder)]⟩

/-- Options with blanks of several kinds around them. -/
def optionSettings : Settings :=
  { Settings.default with builder := "/builder", options := "\t-j\u2003 auto\n", sourceDir := "my docs" }

/-- A shell in the workspace. -/
def optionShell : Shell := ⟨"/ws", [], none⟩

/-- The options reach the builder as two words, and the directory with a space in its name as one. -/
theorem options_reach_tools_sample :
    callsOf (Target.stricthtml.run optionShell optionSettings optionTree).events =
      [⟨"bin/builder", ["ws"], [],
        ["-b", "html", "-d", "build/doctrees", "-j", "auto", "-n", "-T", "-W", "my docs", "build/html"]⟩] := by
  have hoptions : Text.Holds optionSettings.options.toList ["-j", "auto"] :=
    Text.holds_words optionSettings.options
  have hstrict : Text.Holds optionSettings.strictOptions.toList ["-n", "-T", "-W"] :=
    Text.holds_words optionSettings.strictOptions
  obtain ⟨-, hpasses, -⟩ := options_reach_tools optionShell hoptions hstrict
  have hstarts : Target.Starts optionShell optionSettings .stricthtml optionTree
      ⟨"/builder",
        ["-b", "html", "-d", "build/doctrees", "-j", "auto", "-n", "-T", "-W", "my docs", "build/html"], []⟩
      ["ws"] idleBuilder := ⟨rfl, rfl, by rfl⟩
  exact hpasses.called optionTree ["ws"] idleBuilder hstarts

end DocRunner
