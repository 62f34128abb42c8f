import DocRunner.Program
import DocRunner.Proofs.Run.Calls
import DocRunner.Proofs.Settings.Layers

/-!
# The phases of the program

* `Program.Ready sh t words cl s` : the words are read, there is something to do, the directory that was asked
  for is there, and the settings are settled;
* `Program.launch_of_directory`, `Program.launch_without_shell` : the program where the system tells the working
  directory, and where it does not;
* `Program.Course sh t words o` : the five ways in which the program goes in a shell. `Program.course`
  says that there is no other;
* `Program.run_phases` : what the program leaves in each of its phases, and with which exit code it ends.
-/

namespace DocRunner

/-- The shell in the directory that was asked for, if there was one. -/
def Shell.within (sh : Shell) (directory : Option String) : Shell :=
  { sh with directory := (directory.map sh.path).getD sh.directory }

namespace Verdict

/-- What is said at the end calls nothing. -/
theorem callsOf_events (verdict : Verdict) : callsOf verdict.events = [] := by
  cases verdict with
  | usageError why => cases why <;> rfl
  | _ => rfl

end Verdict

theorem UsageError.exitCode_of_not_help {why : UsageError} (h : ∀ long, why ≠ .help long) : why.exitCode = 2 := by
  cases why with
  | help long => exact absurd rfl (h long)
  | _ => rfl

theorem Settings.callsOf_resolve (sh : Shell) (t : Tree) (config : Option String) (flags : Flags) :
    callsOf (resolve sh t config flags).events = [] := by
  rw [resolve, fileNote]
  dsimp only
  split
  · exact callsOf_note sh _
  · rfl

namespace Program

variable {sh : Shell} {t : Tree} {words : List String} {cl cl' : CommandLine} {s s' : Settings}

/-! ## Getting ready -/

/-- The words are read, there is something to do, the directory that was asked for is there, and the
settings are settled. -/
structure Ready (sh : Shell) (t : Tree) (words : List String) (cl : CommandLine) (s : Settings) : Prop where
  parsed : CommandLine.read words = .ok cl
  work : ∃ target ∈ cl.targets, target ≠ .help
  directory : ∀ dir, cl.directory = some dir → ∃ d, t.resolveDirectory [] (sh.path dir) = .ok d
  settings : (Settings.resolve (sh.within cl.directory) t cl.config cl.flags).result = .ok s

theorem Ready.unique (h : Ready sh t words cl s) (h' : Ready sh t words cl' s') : cl = cl' ∧ s = s' := by
  have hcl := h'.parsed
  rw [h.parsed] at hcl
  cases hcl
  have hs := h'.settings
  rw [h.settings] at hs
  cases hs
  exact ⟨rfl, rfl⟩

theorem isHelpOnly_iff : cl.isHelpOnly = true ↔ ∀ target ∈ cl.targets, target = .help := by
  rw [CommandLine.isHelpOnly, List.all_eq_true]
  simp only [decide_eq_true_eq]

theorem isHelpOnly_eq_false_iff : cl.isHelpOnly = false ↔ ∃ target ∈ cl.targets, target ≠ .help := by
  rw [← Bool.not_eq_true, isHelpOnly_iff]
  simp

theorem enter_eq_ok {directory : Option String} {sh' : Shell} (h : enter sh t directory = .ok sh') :
    sh' = sh.within directory ∧ ∀ dir, directory = some dir →
      ∃ d, t.resolveDirectory [] (sh.path dir) = .ok d := by
  cases directory with
  | none =>
    cases h
    exact ⟨rfl, fun _ hdir => nomatch hdir⟩
  | some dir =>
    rw [enter, Shell.changeDirectory, Tree.isDirectory] at h
    cases hd : t.resolveDirectory [] (sh.path dir) with
    | error why =>
      rw [hd] at h
      cases h
    | ok d =>
      rw [hd] at h
      cases h
      refine ⟨rfl, fun other hother => ?_⟩
      cases hother
      exact ⟨d, hd⟩

theorem enter_eq_error {directory : Option String} {why : Failure} (h : enter sh t directory = .error why) :
    ∃ dir, directory = some dir ∧ ∀ d, t.resolveDirectory [] (sh.path dir) ≠ .ok d := by
  cases directory with
  | none => cases h
  | some dir =>
    refine ⟨dir, rfl, fun d hd => ?_⟩
    rw [enter, Shell.changeDirectory, Tree.isDirectory, hd] at h
    cases h

theorem work_of_error {why : Failure} (h : (Settings.resolve sh t cl.config cl.flags).result = .error why) :
    work sh t cl = finish (.badSettings why) (Settings.resolve sh t cl.config cl.flags).events t := by
  unfold work
  simp only [h]

theorem work_of_ok (h : (Settings.resolve sh t cl.config cl.flags).result = .ok s) :
    work sh t cl = { perform sh s cl.targets t with
      events := (Settings.resolve sh t cl.config cl.flags).events ++ (perform sh s cl.targets t).events } := by
  unfold work
  simp only [h]

/-! ## With a shell and without one -/

section Launch

variable {shell : Except Failure Shell}

theorem launch_of_misused {why : UsageError} (hread : CommandLine.read words = .error why) :
    launch shell t words = finish (.usageError why) [] t := by
  rw [launch, hread]

theorem launch_of_idle (hread : CommandLine.read words = .ok cl) (hall : ∀ target ∈ cl.targets, target = .help) :
    launch shell t words = finish .helpOnly [] t := by
  rw [launch, hread]
  dsimp only
  rw [serveCommandLine.eq_def, if_pos (isHelpOnly_iff.2 hall)]

theorem launch_of_work (hread : CommandLine.read words = .ok cl) (hwork : ∃ target ∈ cl.targets, target ≠ .help) :
    launch shell t words =
      match shell with
      | .error why => finish (.noShell why) [] t
      | .ok sh => workThere sh t cl := by
  rw [launch, hread]
  dsimp only
  rw [serveCommandLine.eq_def, isHelpOnly_eq_false_iff.2 hwork]
  rfl

/-- Where the system tells the working directory, the program runs in a shell there. -/
theorem launch_of_directory (directory : String) (env : Variables) (t : Tree) (words : List String) :
    launch (openShell env (.ok directory)) t words = run (Shell.start directory env) t words := by rfl

/-- Where the system does not tell the working directory, the program ends as in any shell if there is nothing
to do, help and usage errors included. If there is something to do, it says what the system has said, ends with
the exit code 1, starts nothing and changes nothing. -/
theorem launch_without_shell (why : Refusal) (env : Variables) (sh : Shell) (t : Tree) (words : List String) :
    ((∀ cl, CommandLine.read words = .ok cl → ∀ target ∈ cl.targets, target = .help) →
      launch (openShell env (.error why)) t words = run sh t words) ∧
    ∀ cl, CommandLine.read words = .ok cl → (∃ target ∈ cl.targets, target ≠ .help) →
      (launch (openShell env (.error why)) t words).verdict.exitCode = 1 ∧
        (launch (openShell env (.error why)) t words).events =
          [.complain ("Error creating shell: failed to get current directory: " ++ why.message ++ "\n")] ∧
        (launch (openShell env (.error why)) t words).tree = t := by
  refine ⟨fun hidle => ?_, fun cl hread hwork => ?_⟩
  · cases hread : CommandLine.read words with
    | error misuse => rw [run, launch_of_misused hread, launch_of_misused hread]
    | ok cl => rw [run, launch_of_idle hread (hidle cl hread), launch_of_idle hread (hidle cl hread)]
  · rw [launch_of_work hread hwork]
    refine ⟨rfl, ?_, rfl⟩
    show [Event.complain
        ("Error creating shell: " ++ ("failed to get current directory: " ++ why.message) ++ "\n")] = _
    rw [← String.append_assoc]
    rfl

end Launch

/-! ## The ways in which the program goes -/

/-- The ways in which the program goes. -/
inductive Course (sh : Shell) (t : Tree) (words : List String) : ProgramOutcome → Prop
  /-- Its words cannot be read. -/
  | misused {why : UsageError} :
      CommandLine.read words = .error why → Course sh t words (finish (.usageError why) [] t)
  /-- There is nothing to do. -/
  | idle {cl : CommandLine} :
      CommandLine.read words = .ok cl → (∀ target ∈ cl.targets, target = .help) →
      Course sh t words (finish .helpOnly [] t)
  /-- The directory that was asked for is not there. -/
  | lost {cl : CommandLine} {dir : String} {why : Failure} :
      CommandLine.read words = .ok cl → (∃ target ∈ cl.targets, target ≠ .help) → cl.directory = some dir →
      (∀ d, t.resolveDirectory [] (sh.path dir) ≠ .ok d) →
      Course sh t words (finish (.badDirectory why) [] t)
  /-- The settings cannot be settled. -/
  | unsettled {cl : CommandLine} {why : Failure} :
      CommandLine.read words = .ok cl → (∃ target ∈ cl.targets, target ≠ .help) →
      (Settings.resolve (sh.within cl.directory) t cl.config cl.flags).result = .error why →
      Course sh t words
        (finish (.badSettings why) (Settings.resolve (sh.within cl.directory) t cl.config cl.flags).events t)
  /-- It runs its targets. -/
  | ran {cl : CommandLine} {s : Settings} :
      Ready sh t words cl s →
      Course sh t words
        { perform (sh.within cl.directory) s cl.targets t with
          events := (Settings.resolve (sh.within cl.directory) t cl.config cl.flags).events ++
            (perform (sh.within cl.directory) s cl.targets t).events }

theorem run_of_misused {why : UsageError} (hread : CommandLine.read words = .error why) :
    run sh t words = finish (.usageError why) [] t := launch_of_misused hread

theorem run_of_idle (hread : CommandLine.read words = .ok cl) (hall : ∀ target ∈ cl.targets, target = .help) :
    run sh t words = finish .helpOnly [] t := launch_of_idle hread hall

theorem run_of_work (hread : CommandLine.read words = .ok cl) (hwork : ∃ target ∈ cl.targets, target ≠ .help) :
    run sh t words = workThere sh t cl := launch_of_work hread hwork

/-- Every run of the program goes in one of these ways. -/
theorem course (sh : Shell) (t : Tree) (words : List String) : Course sh t words (run sh t words) := by
  cases hread : CommandLine.read words with
  | error why =>
    rw [run_of_misused hread]
    exact .misused hread
  | ok cl =>
    by_cases hhelp : cl.isHelpOnly = true
    · rw [run_of_idle hread (isHelpOnly_iff.1 hhelp)]
      exact .idle hread (isHelpOnly_iff.1 hhelp)
    · have hwork := isHelpOnly_eq_false_iff.1 (Bool.not_eq_true _ ▸ hhelp)
      rw [run_of_work hread hwork, workThere]
      cases henter : enter sh t cl.directory with
      | error why =>
        obtain ⟨dir, hdir, hnone⟩ := enter_eq_error henter
        exact .lost hread hwork hdir hnone
      | ok sh' =>
        obtain ⟨rfl, hdir⟩ := enter_eq_ok henter
        dsimp only
        cases hs : (Settings.resolve (sh.within cl.directory) t cl.config cl.flags).result with
        | error why =>
          rw [work_of_error hs]
          exact .unsettled hread hwork hs
        | ok s =>
          rw [work_of_ok hs]
          exact .ran ⟨hread, hwork, hdir, hs⟩

/-! ## Running the targets -/

theorem perform_of_ok {targets : List Target} (h : (runAll sh s targets t).result = .ok ()) :
    perform sh s targets t = finish .succeeded (runAll sh s targets t).events (runAll sh s targets t).tree := by
  rw [perform]
  simp only [h]

theorem perform_of_error {targets : List Target} {target : Target} {why : Failure}
    (h : (runAll sh s targets t).result = .error (target, why)) :
    perform sh s targets t = finish (.failed target why) (runAll sh s targets t).events
      (runAll sh s targets t).tree := by
  rw [perform]
  simp only [h]

/-- How the program ends behind a target that has failed: with the exit code of its tool if that is the cause,
else with 1, and with the cause as the last that it says. -/
structure FailsWith (sh : Shell) (s : Settings) (v : Visit) (why : Failure) (o : ProgramOutcome) : Prop where
  exited : ∀ code, v.target.ToolEnds sh s v.tree (.exited code) → code ≠ 0 → o.verdict.exitCode = code
  other : (∀ code, v.target.ToolEnds sh s v.tree (.exited code) → code = 0) → o.verdict.exitCode = 1
  nonzero : o.verdict.exitCode ≠ 0
  message : ∃ before,
    stderrOf o.events = before ++ ("Error running " ++ v.target.name ++ ": " ++ why.message ++ "\n")

theorem failsWith_perform {targets : List Target} {visits : List Visit}
    (h : Visits sh s targets t visits) {v : Visit} (hv : v ∈ visits) {why : Failure}
    (hfail : (v.outcome sh s).result = .error why) (first : List Event) :
    FailsWith sh s v why
      { perform sh s targets t with events := first ++ (perform sh s targets t).events } := by
  rw [perform_of_error (h.result_of_error hv hfail)]
  refine ⟨fun _ he hne => Target.exitCode_of_exited hfail he hne, Target.exitCode_of_not_exited hfail,
    Target.exitCode_ne_zero hfail, stderrOf (first ++ (runAll sh s targets t).events), ?_⟩
  rw [finish, ← List.append_assoc, stderrOf_append]
  rfl

/-! ## All phases -/

theorem callsOf_finish (verdict : Verdict) {events : List Event} (h : callsOf events = []) (t : Tree) :
    callsOf (finish verdict events t).events = [] := by
  rw [finish, callsOf_append, h, Verdict.callsOf_events]
  rfl

/-- If not all is ready, nothing is started and nothing changes. -/
theorem Course.quiet {o : ProgramOutcome} (h : Course sh t words o) (hnot : ∀ cl s, ¬ Ready sh t words cl s) :
    callsOf o.events = [] ∧ o.tree = t := by
  cases h with
  | misused => exact ⟨callsOf_finish _ rfl t, rfl⟩
  | idle => exact ⟨callsOf_finish _ rfl t, rfl⟩
  | lost => exact ⟨callsOf_finish _ rfl t, rfl⟩
  | unsettled => exact ⟨callsOf_finish _ (Settings.callsOf_resolve _ _ _ _) t, rfl⟩
  | ran hready => exact absurd hready (hnot _ _)

/-- If there is something to do and not all is ready, the exit code is 1. -/
theorem Course.exitCode_of_unready {o : ProgramOutcome} (h : Course sh t words o)
    (hread : CommandLine.read words = .ok cl) (hwork : ∃ target ∈ cl.targets, target ≠ .help)
    (hnot : ∀ cl s, ¬ Ready sh t words cl s) : o.verdict.exitCode = 1 := by
  cases h with
  | misused hread' =>
    rw [hread] at hread'
    cases hread'
  | idle hread' hall =>
    rw [hread] at hread'
    cases hread'
    obtain ⟨target, hmem, hne⟩ := hwork
    exact absurd (hall target hmem) hne
  | lost => rfl
  | unsettled => rfl
  | ran hready => exact absurd hready (hnot _ _)

/-- If all is ready, the program ends as its targets do. -/
theorem Course.ends {o : ProgramOutcome} (h : Course sh t words o) (hready : Ready sh t words cl s) :
    ∃ visits, Visits (sh.within cl.directory) s cl.targets t visits ∧
      (o.verdict.exitCode = 0 ↔ visits.map Visit.target = cl.targets ∧
        ∀ v ∈ visits, (v.outcome (sh.within cl.directory) s).result = .ok ()) ∧
      ∀ v ∈ visits, ∀ why, (v.outcome (sh.within cl.directory) s).result = .error why →
        FailsWith (sh.within cl.directory) s v why o := by
  -- the words, the directory and the settings leave only the way in which the targets are run
  have hread := hready.parsed
  cases h with
  | misused hread' =>
    rw [hread] at hread'
    cases hread'
  | idle hread' hall =>
    rw [hread] at hread'
    cases hread'
    obtain ⟨target, hmem, hne⟩ := hready.work
    exact absurd (hall target hmem) hne
  | lost hread' _ hdir hnone =>
    rw [hread] at hread'
    cases hread'
    obtain ⟨d, hd⟩ := hready.directory _ hdir
    exact absurd hd (hnone d)
  | unsettled hread' _ herr =>
    rw [hread] at hread'
    cases hread'
    rw [hready.settings] at herr
    cases herr
  | ran hready' =>
    obtain ⟨rfl, rfl⟩ := hready.unique hready'
    obtain ⟨visits, hvisits⟩ := Visits.exist (sh.within cl.directory) s cl.targets t
    refine ⟨visits, hvisits, ?_, fun v hv why hfail => failsWith_perform hvisits hv hfail _⟩
    by_cases hall : ∀ v ∈ visits, (v.outcome (sh.within cl.directory) s).result = .ok ()
    · refine iff_of_true ?_ ⟨hvisits.targets_eq hall, hall⟩
      rw [perform_of_ok (hvisits.result_eq_ok.2 hall)]
      rfl
    · -- a visit that fails would have given another exit code than 0
      refine iff_of_false (fun hzero => hall fun v hv => ?_) fun hok => hall hok.2
      cases hr : (v.outcome (sh.within cl.directory) s).result with
      | ok _ => rfl
      | error why => exact absurd hzero (failsWith_perform hvisits hv hr _).nonzero

/-- In each of its phases: what the program leaves and with which exit code it ends, requests for help aside. -/
theorem run_phases (hhelp : ∀ long, CommandLine.read words ≠ .error (.help long)) :
    ((∀ cl s, ¬ Ready sh t words cl s) →
      (callsOf (run sh t words).events = [] ∧ (run sh t words).tree = t) ∧
      (∀ why, CommandLine.read words = .error why → (run sh t words).verdict.exitCode = 2) ∧
      ∀ cl, CommandLine.read words = .ok cl →
        ((∀ target ∈ cl.targets, target = .help) →
          (run sh t words).verdict.exitCode = 0 ∧ stdoutOf (run sh t words).events = usage ∧
            stderrOf (run sh t words).events = "") ∧
        ((∃ target ∈ cl.targets, target ≠ .help) → (run sh t words).verdict.exitCode = 1)) ∧
    ∀ cl s, Ready sh t words cl s →
      ∃ visits, Visits (sh.within cl.directory) s cl.targets t visits ∧
        ((run sh t words).verdict.exitCode = 0 ↔ visits.map Visit.target = cl.targets ∧
          ∀ v ∈ visits, (v.outcome (sh.within cl.directory) s).result = .ok ()) ∧
        ∀ v ∈ visits, ∀ why, (v.outcome (sh.within cl.directory) s).result = .error why →
          FailsWith (sh.within cl.directory) s v why (run sh t words) := by
  refine ⟨fun hnot =>
    ⟨(course sh t words).quiet hnot, fun why hread => ?_, fun cl hread => ⟨fun hall => ?_, ?_⟩⟩,
    fun cl s hready => (course sh t words).ends hready⟩
  · rw [run_of_misused hread]
    exact UsageError.exitCode_of_not_help fun long heq => hhelp long (heq ▸ hread)
  · rw [run_of_idle hread hall]
    exact ⟨rfl, rfl, rfl⟩
  · exact fun hwork => (course sh t words).exitCode_of_unready hread hwork hnot

/-! ## A sample -/

/-- A builder that fails. -/
def failingBuilder : Tool := ⟨"builder", [], "", "", .exited 2⟩

/-- A workspace beside that builder. -/
def builderTree : Tree := ⟨[(["ws"], .directory), (["builder"], .tool failingBuilder)]⟩

/-- The shell of the sample. -/
def builderShell : Shell := ⟨"/ws", [], none⟩

/-- The words of the sample. -/
def builderWords : List String := ["--builder", "/builder", "html"]

/-- The settings of the sample. -/
def builderSettings : Settings := { Settings.default with builder := "/builder" }

theorem ready_sample : Ready builderShell builderTree builderWords
    ⟨[.html], none, none, { builder := some "/builder" }⟩ builderSettings where
  parsed := by rfl
  work := ⟨.html, by decide, by decide⟩
  directory _ hdir := nomatch hdir
  settings := by
    have hmissing : builderTree.isThere [] (builderShell.path Settings.fileName) = false := by rfl
    have hfile : Settings.fileLayer builderShell builderTree none = .ok {} := by
      rw [Settings.fileLayer, Option.getD_none, hmissing]
      rfl
    exact Settings.resolve_eq_ok.2 ⟨{}, {}, hfile, rfl, rfl⟩

theorem html_sample :
    (Target.html.run builderShell builderSettings builderTree).result =
      .error (.stepFailed "/builder -b html -d build/doctrees src build/html" (some 2)) := by rfl

/-- A builder that ends with the exit code 2 makes the program do so, and say why. -/
theorem run_phases_sample :
    (run builderShell builderTree builderWords).verdict.exitCode = 2 ∧
      ∃ before, stderrOf (run builderShell builderTree builderWords).events =
        before ++
          "Error running html: `/builder -b html -d build/doctrees src build/html` exited with code 2\n" := by
  have hhelp : ∀ long, CommandLine.read builderWords ≠ .error (.help long) := fun long h => by
    rw [ready_sample.parsed] at h
    cases h
  have hends : Target.html.ToolEnds builderShell builderSettings builderTree (.exited 2) :=
    ⟨_, ["ws"], failingBuilder, ⟨rfl, rfl, by rfl⟩, rfl⟩
  obtain ⟨visits, hvisits, -, hfails⟩ := (run_phases hhelp).2 _ _ ready_sample
  cases hvisits with
  | failed =>
    have hlast := hfails ⟨.html, builderTree⟩ (List.mem_singleton_self _) _ html_sample
    exact ⟨hlast.exited 2 hends (by decide), hlast.message⟩
  | passed hok =>
    rw [show builderShell.within none = builderShell from rfl, html_sample] at hok
    cases hok

end Program

end DocRunner
