import DocRunner.Proofs.Program.Phases
import DocRunner.Proofs.Run.Information
import DocRunner.Proofs.Run.TwoLevels
import DocRunner.Proofs.Session.LogLevel

/-!
# The log level of the program

Two runs of the program that differ in the log level alone, and two sessions that do, come to the same and do
the same. What they show differs in the informational events alone, which a quiet run leaves out.

* `Program.run_shows`, `Program.ready_plain` : the program does in a shell what it does in the plain one, and is
  ready in both or in none;
* `Program.run_informs` : what a quiet run leaves out are echoes and lines of information;
* `Shell.isOther name`, `Variables.LevelsFit env` : the variables beside that of the log level, and
  what a value of that can be;
* `Program.logLevel_only_prints` : what two environments and two sessions have in common that
  differ in the log level.
-/

namespace DocRunner

/-! ## The program -/

namespace Program

variable {keep : String → Bool} {sh sh' : Shell} {s : Settings} {t : Tree} {cl : CommandLine}
  {words : List String}

/-- What the program leaves in a shell: the same, and the shell shows what it does. -/
structure Shows (sh : Shell) (keep : String → Bool) (full o : ProgramOutcome) : Prop where
  verdict : o.verdict = full.verdict
  events : sh.Shows keep full.events o.events
  tree : o.tree = full.tree

theorem finish_shows {full events : List Event} (h : sh.Shows keep full events) (verdict : Verdict) (t : Tree) :
    Shows sh keep (finish verdict full t) (finish verdict events t) := by
  refine ⟨rfl, h.append ?_, rfl⟩
  cases verdict with
  | usageError why =>
    cases why with
    | help long => exact Shell.Shows.aloud sh rfl rfl
    | _ => exact Shell.Shows.aloud sh rfl rfl
  | helpOnly => exact Shell.Shows.aloud sh rfl rfl
  | noShell why => exact Shell.Shows.aloud sh rfl rfl
  | badDirectory why => exact Shell.Shows.aloud sh rfl rfl
  | badSettings why => exact Shell.Shows.aloud sh rfl rfl
  | failed target why => exact Shell.Shows.aloud sh rfl rfl
  | succeeded => exact Shell.Shows.nil sh keep

theorem perform_shows (h : sh.Hides keep) (s : Settings) (targets : List Target) (t : Tree) :
    Shows sh keep (perform (sh.plain keep) s targets t) (perform sh s targets t) := by
  obtain ⟨hresult, hevents, htree⟩ := runAll_shows h s targets t
  cases hr : (runAll (sh.plain keep) s targets t).result with
  | error why =>
    obtain ⟨target, why⟩ := why
    rw [perform_of_error hr, perform_of_error (hresult.trans hr), htree]
    exact finish_shows hevents _ _
  | ok _ =>
    rw [perform_of_ok hr, perform_of_ok (hresult.trans hr), htree]
    exact finish_shows hevents _ _

theorem work_shows (h : sh.Hides keep) (t : Tree) (cl : CommandLine) :
    Shows sh keep (work (sh.plain keep) t cl) (work sh t cl) := by
  obtain ⟨hresult, hevents⟩ := Settings.resolve_shows h t cl.config cl.flags
  cases hr : (Settings.resolve (sh.plain keep) t cl.config cl.flags).result with
  | error why =>
    rw [work_of_error hr, work_of_error (hresult.trans hr)]
    exact finish_shows hevents _ t
  | ok s =>
    rw [work_of_ok hr, work_of_ok (hresult.trans hr)]
    have hrun := perform_shows h s cl.targets t
    exact ⟨hrun.verdict, hevents.append hrun.events, hrun.tree⟩

theorem enter_plain (sh : Shell) (keep : String → Bool) (t : Tree) (directory : Option String) :
    enter (sh.plain keep) t directory = (enter sh t directory).map fun sh => sh.plain keep := by
  cases directory with
  | none => rfl
  | some dir =>
    unfold enter Shell.changeDirectory
    show (if t.isDirectory [] (sh.path dir) then _ else Except.error (Failure.noDirectory (sh.path dir))) = _
    dsimp only
    split_ifs <;> rfl

theorem end_shows (sh : Shell) (keep : String → Bool) (verdict : Verdict) (t : Tree) :
    Shows sh keep (finish verdict [] t) (finish verdict [] t) := finish_shows (Shell.Shows.nil sh keep) verdict t

theorem workThere_shows (h : sh.Hides keep) (t : Tree) (cl : CommandLine) :
    Shows sh keep (workThere (sh.plain keep) t cl) (workThere sh t cl) := by
  rw [workThere, workThere, enter_plain]
  cases henter : enter sh t cl.directory with
  | error why => exact end_shows sh keep _ t
  | ok there =>
    -- the level and the variables are the same in the directory that was asked for
    obtain ⟨rfl, -⟩ := enter_eq_ok henter
    have hthere : (sh.within cl.directory).Hides keep := ⟨h.read, h.nul⟩
    obtain ⟨hverdict, hevents, htree⟩ := work_shows hthere t cl
    exact ⟨hverdict, hevents, htree⟩

/-- The program does in a shell what it does in the plain one. -/
theorem run_shows (h : sh.Hides keep) (t : Tree) (words : List String) :
    Shows sh keep (run (sh.plain keep) t words) (run sh t words) := by
  cases hread : CommandLine.read words with
  | error why =>
    rw [run_of_misused hread, run_of_misused hread]
    exact end_shows sh keep _ t
  | ok cl =>
    cases hhelp : cl.isHelpOnly with
    | true =>
      have hidle := isHelpOnly_iff.1 hhelp
      rw [run_of_idle hread hidle, run_of_idle hread hidle]
      exact end_shows sh keep _ t
    | false =>
      have hwork := isHelpOnly_eq_false_iff.1 hhelp
      rw [run_of_work hread hwork, run_of_work hread hwork]
      exact workThere_shows h t cl

/-- All that a quiet run of the program leaves out are echoes and lines of information. -/
theorem run_informs (sh : Shell) (t : Tree) (words : List String) : Informs (run sh t words).events := by
  have hcourse := course sh t words
  generalize run sh t words = o at hcourse ⊢
  cases hcourse with
  | misused => exact finish_informs Informs.nil _ t
  | idle => exact finish_informs Informs.nil _ t
  | lost => exact finish_informs Informs.nil _ t
  | unsettled => exact finish_informs (Settings.resolve_informs _ t _ _) _ t
  | ran => exact (Settings.resolve_informs _ t _ _).append (perform_informs _ _ _ t)

theorem ready_plain (h : sh.Hides keep) {cl : CommandLine} {s : Settings} :
    Ready (sh.plain keep) t words cl s ↔ Ready sh t words cl s := by
  have hthere : (sh.within cl.directory).Hides keep := ⟨h.read, h.nul⟩
  have hsettled := (Settings.resolve_shows hthere t cl.config cl.flags).1
  constructor
  · rintro ⟨hparsed, hwork, hdirectory, hsettings⟩
    exact ⟨hparsed, hwork, hdirectory, hsettled.trans hsettings⟩
  · rintro ⟨hparsed, hwork, hdirectory, hsettings⟩
    exact ⟨hparsed, hwork, hdirectory, hsettled.symm.trans hsettings⟩

end Program

/-! ## The variable of the log level -/

/-- A variable is another than that of the log level. -/
def Shell.isOther (name : String) : Bool := name ≠ logLevelVariable

/-- No value for the log level holds a NUL, as no value in the environment of a process does. -/
def Variables.LevelsFit (env : Variables) : Prop :=
  ∀ v ∈ env, v.1 = Shell.logLevelVariable → '\x00' ∉ v.2.toList

theorem Shell.hides_start (directory : String) {env : Variables} (h : env.LevelsFit) :
    (Shell.start directory env).Hides isOther where
  read := by decide
  nul v hv hother := by
    have hname : v.1 = logLevelVariable := by simpa [isOther] using hother
    refine ⟨?_, h v hv hname⟩
    rw [hname]
    decide

namespace Program

/-- Two runs of the program whose environments differ in the log level alone end in the same way, with the same
settings, and leave the same tree. So does each step of two sessions, and what lasts is the same. They make the
same calls, up to the variable of the log level. If both are quiet or none is, they show the same; else the
quiet one shows what the other shows, without the echoes and the lines of information. Quiet is only who has the
level `quiet` (`Shell.isQuiet_start_iff`, `Shell.isQuiet_iff`). -/
theorem logLevel_only_prints :
    (∀ (directory : String) (env env' : Variables), env.restrict Shell.isOther = env'.restrict Shell.isOther →
      env.LevelsFit → env'.LevelsFit → ∀ (t : Tree) (words : List String),
        (run (Shell.start directory env) t words).verdict = (run (Shell.start directory env') t words).verdict ∧
        (run (Shell.start directory env) t words).tree = (run (Shell.start directory env') t words).tree ∧
        (∀ cl s, Ready (Shell.start directory env) t words cl s ↔
          Ready (Shell.start directory env') t words cl s) ∧
        SameButLevel (Shell.start directory env).isQuiet (Shell.start directory env').isQuiet Shell.isOther
          (run (Shell.start directory env) t words).events (run (Shell.start directory env') t words).events ∧
        Informs (run (Shell.start directory env') t words).events) ∧
    ∀ (x : Session) (level : Option String) (steps : List Step), (∀ a ∈ steps, a.KeepsLevel) →
      List.Forall₂ (fun r r' => r'.1 = r.1 ∧
          SameButLevel x.shell.isQuiet (x.shell.withLevel level).isQuiet (fun _ => true) r.2 r'.2)
        (x.stepAll steps).1 ((x.withLevel level).stepAll steps).1 ∧
      ((x.withLevel level).stepAll steps).2 = (x.stepAll steps).2.withLevel level ∧
      ∀ r ∈ ((x.withLevel level).stepAll steps).1, Informs r.2 := by
  constructor
  · intro directory env env' hsame hfit hfit' t words
    have hhides := Shell.hides_start directory hfit
    have hhides' := Shell.hides_start directory hfit'
    -- both environments come down to the same plain shell
    have hplain : (Shell.start directory env).plain Shell.isOther =
        (Shell.start directory env').plain Shell.isOther :=
      congrArg (fun vars => Shell.mk directory vars none) hsame
    obtain ⟨hverdict, hevents, htree⟩ := run_shows hhides t words
    obtain ⟨hverdict', hevents', htree'⟩ := run_shows hhides' t words
    rw [hplain] at hverdict hevents htree
    refine ⟨hverdict.trans hverdict'.symm, htree.trans htree'.symm, fun cl s => ?_, hevents.sameButLevel hevents',
      run_informs _ t words⟩
    rw [← ready_plain hhides, ← ready_plain hhides', hplain]
  · intro x level steps hkeeps
    obtain ⟨heach, hend⟩ := x.stepAll_withLevel level hkeeps
    exact ⟨heach, hend, (x.withLevel level).stepAll_informs steps⟩

/-- A workspace with nothing in it. -/
def bareTree : Tree := ⟨[(["ws"], .directory)]⟩

/-- A program in that workspace cleans at a log level. -/
def cleanAt (level : String) :
    ProgramOutcome := run (Shell.start "/ws" [("DOCTASKS_LOG_LEVEL", level)]) bareTree ["clean"]

theorem events_cleanAt_loud : (cleanAt "loud").events = [.note "Nothing to clean, build does not exist"] := by rfl

/-- Quiet mode leaves out the note, and any other level prints it. A session ends in the same way at both. -/
theorem logLevel_only_prints_sample :
    (cleanAt "quiet").verdict = (cleanAt "loud").verdict ∧
      stdoutOf (cleanAt "quiet").events = "" ∧
      stdoutOf (cleanAt "loud").events = "Nothing to clean, build does not exist\n" ∧
      ((Session.mk ⟨"/ws", [], some "quiet"⟩ .default ["ws"] bareTree).stepAll [.run [.clean]]).2 =
        ((Session.mk ⟨"/ws", [], none⟩ .default ["ws"] bareTree).stepAll [.run [.clean]]).2.withLevel
          (some "quiet") := by
  have hfit : ∀ level, '\x00' ∉ String.toList level → Variables.LevelsFit [("DOCTASKS_LOG_LEVEL", level)] := by
    intro level hlevel v hv _
    rwa [List.mem_singleton.1 hv]
  obtain ⟨hverdict, -, -, hevents, -⟩ := logLevel_only_prints.1 "/ws" [("DOCTASKS_LOG_LEVEL", "quiet")]
    [("DOCTASKS_LOG_LEVEL", "loud")] rfl (hfit _ (by decide)) (hfit _ (by decide)) bareTree ["clean"]
  obtain ⟨-, hquiet, -⟩ := hevents.quieter ((Shell.isQuiet_start_iff _ _).2 rfl) (by decide)
  have hout : stdoutOf (cleanAt "quiet").events =
      stdoutOf ((cleanAt "loud").events.filter (!·.isInformational)) := hquiet
  have hkeeps : ∀ a ∈ [Step.run [.clean]], a.KeepsLevel := fun a ha => by
    rw [List.mem_singleton.1 ha]
    trivial
  obtain ⟨-, hend, -⟩ :=
    logLevel_only_prints.2 (Session.mk ⟨"/ws", [], none⟩ .default ["ws"] bareTree) (some "quiet") _ hkeeps
  rw [hout, events_cleanAt_loud]
  exact ⟨hverdict, rfl, rfl, hend⟩

end Program

end DocRunner
