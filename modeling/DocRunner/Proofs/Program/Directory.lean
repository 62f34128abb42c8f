import DocRunner.Proofs.Program.Phases
import DocRunner.Proofs.Run.SameDirectory

/-!
# Starting in another directory

A run with a directory to change to is as a run that is started there.

* `Program.lookups sh t cl` : what a run looks up in its working directory;
* `Settings.resolve_movedTo`, `Program.work_movedTo` : the settings are settled and the targets run alike under
  two texts for the working directory;
* `Program.as_if_started_there` : a run that changes to a directory and a run that is started there read the
  same settings file, settle the same settings, make the same calls, end with the same exit code and leave the
  same tree. What they print differs only in what is shown of the working directory.
-/

namespace DocRunner

open DocRunner.Tree

/-! ## Settling the settings -/

section Settling

variable {sh : Shell} {dir' : String} {t : Tree} {config : Option String}

namespace Settings

theorem layerOf_sameBut (dir dir' q : String) (text : Except Refusal String) :
    SameResult (Failure.SameBut dir dir') (layerOf (Path.join dir q) text) (layerOf (Path.join dir' q) text) := by
  cases text with
  | error why => exact .error (Failure.SameBut.refl _ _ _)
  | ok text =>
    unfold layerOf
    dsimp only
    cases Layer.ofFile? text with
    | ok l => exact .ok l
    | error why =>
      exact .error
        ⟨rfl, .append (.between "Invalid config file " q ": ") (.same (why.message "TOML syntax error"))⟩

/-- The same settings file is there, with the same text. -/
theorem file_movedTo (h : t.SameDirectory sh.directory dir')
    (hlimits : t.SameLimits sh.directory dir' (config.getD fileName)) :
    t.resolve [] (sh.path (config.getD fileName)) =
      t.resolve [] ((sh.movedTo dir').path (config.getD fileName)) :=
  h.resolve_join hlimits

theorem fileLayer_movedTo (h : t.SameDirectory sh.directory dir')
    (hlimits : t.SameLimits sh.directory dir' (config.getD fileName)) :
    SameResult (Failure.SameBut sh.directory dir') (fileLayer sh t config)
      (fileLayer (sh.movedTo dir') t config) := by
  have hfile := file_movedTo h hlimits
  unfold fileLayer
  dsimp only
  rw [← isThere_congr hfile, ← readText_congr hfile]
  split_ifs
  · exact layerOf_sameBut _ _ _ _
  · exact .error ⟨rfl, .append (.same "Config file not found: ") (.path _)⟩
  · exact .ok _

/-- The settings are settled alike under both texts. -/
theorem resolve_movedTo (h : t.SameDirectory sh.directory dir')
    (hlimits : t.SameLimits sh.directory dir' (config.getD fileName)) (flags : Flags) :
    SameResult (Failure.SameBut sh.directory dir') (resolve sh t config flags).result
        (resolve (sh.movedTo dir') t config flags).result ∧
      SameEvents sh.directory dir' (resolve sh t config flags).events
        (resolve (sh.movedTo dir') t config flags).events := by
  constructor
  · have hlayer := fileLayer_movedTo h hlimits
    unfold resolve
    dsimp only
    generalize fileLayer sh t config = file, fileLayer (sh.movedTo dir') t config = file' at hlayer
    cases hlayer with
    | error hwhy => exact .error hwhy
    | ok file =>
      have hvars : Layer.ofVariables? (sh.movedTo dir').vars = Layer.ofVariables? sh.vars := rfl
      rw [hvars]
      cases Layer.ofVariables? sh.vars with
      | error why => exact .error (Failure.SameBut.refl _ _ why)
      | ok vars => exact .ok _
  · show SameEvents _ _ (fileNote sh t config) (fileNote (sh.movedTo dir') t config)
    unfold fileNote
    dsimp only
    rw [← isThere_congr (file_movedTo h hlimits)]
    split
    · exact Shell.note_movedTo (.append (.same "Using config file: ") (.path _))
    · exact .nil

end Settings

/-! ## The program -/

/-- Two verdicts have one exit code, and what is said at the end differs only in what it shows of the working
directory. -/
structure Verdict.SameBut (dir dir' : String) (verdict verdict' : Verdict) : Prop where
  exitCode : verdict'.exitCode = verdict.exitCode
  events : SameEvents dir dir' verdict.events verdict'.events

theorem Verdict.SameBut.refl (dir dir' : String) (verdict : Verdict) : verdict.SameBut dir dir' verdict :=
  ⟨rfl, SameEvents.refl _ _ _⟩

/-- What two runs of the program leave differs only in what they show of the working directory. -/
structure ProgramOutcome.SameBut (dir dir' : String) (o o' : ProgramOutcome) : Prop where
  exitCode : o'.verdict.exitCode = o.verdict.exitCode
  events : SameEvents dir dir' o.events o'.events
  tree : o'.tree = o.tree

namespace Program

variable {s : Settings}

theorem finish_sameBut {dir : String} {verdict verdict' : Verdict} {events events' : List Event}
    (h : verdict.SameBut dir dir' verdict') (hevents : SameEvents dir dir' events events') (t : Tree) :
    (finish verdict events t).SameBut dir dir' (finish verdict' events' t) :=
  ⟨h.exitCode, hevents.append h.events, rfl⟩

theorem failed_sameBut {dir : String} (target : Target) {why why' : Failure} (h : why.SameBut dir dir' why') :
    (Verdict.failed target why).SameBut dir dir' (.failed target why') := by
  have htext := Text.SameBut.append (.same ("Error running " ++ target.name ++ ": ")) h.message
  exact ⟨h.exitCode, .one (.complain (.append htext (.same "\n")))⟩

theorem badSettings_sameBut {dir : String} {why why' : Failure} (h : why.SameBut dir dir' why') :
    (Verdict.badSettings why).SameBut dir dir' (.badSettings why') :=
  ⟨rfl, .one (.complain (.append (.append (.same "Error loading configuration: ") h.message) (.same "\n")))⟩

theorem perform_movedTo {targets : List Target}
    (hsame : SameThroughout sh.directory dir' t (runAll sh s targets t).tree)
    (hlimits : WithinLimits sh.directory dir' (runLookups sh s targets t)) :
    (perform sh s targets t).SameBut sh.directory dir' (perform (sh.movedTo dir') s targets t) := by
  obtain ⟨hresult, hevents, htree⟩ := runAll_movedTo hsame hlimits
  cases hr : (runAll sh s targets t).result with
  | error failed =>
    obtain ⟨target, why⟩ := failed
    obtain ⟨⟨target', why'⟩, hr', htarget, hwhy⟩ := hresult.of_error hr
    cases htarget
    rw [perform_of_error hr, perform_of_error hr', htree]
    exact finish_sameBut (failed_sameBut target hwhy) hevents _
  | ok _ =>
    rw [perform_of_ok hr, perform_of_ok (hresult.ok_iff.1 hr), htree]
    exact finish_sameBut (Verdict.SameBut.refl _ _ _) hevents _

/-- What a run looks up in its working directory: the settings file, and what its targets look up. -/
def lookups (sh : Shell) (t : Tree) (cl : CommandLine) : List (Tree × String) :=
  (t, cl.config.getD Settings.fileName) ::
    match (Settings.resolve sh t cl.config cl.flags).result with
    | .error _ => []
    | .ok s => runLookups sh s cl.targets t

theorem perform_tree (sh : Shell) (s : Settings) (targets : List Target) (t : Tree) :
    (perform sh s targets t).tree = (runAll sh s targets t).tree := by
  unfold perform
  dsimp only
  split <;> rfl

theorem work_evolves (sh : Shell) (t : Tree) (cl : CommandLine) : Evolves sh.directory t (work sh t cl).tree := by
  cases hs : (Settings.resolve sh t cl.config cl.flags).result with
  | error why =>
    rw [work_of_error hs]
    exact .refl t
  | ok s =>
    rw [work_of_ok hs, perform_tree]
    exact runAll_evolves sh s cl.targets t

/-- The settings are settled and the targets are run alike under both texts. -/
theorem work_movedTo {cl : CommandLine} (hsame : SameThroughout sh.directory dir' t (work sh t cl).tree)
    (hlimits : WithinLimits sh.directory dir' (lookups sh t cl)) :
    (work sh t cl).SameBut sh.directory dir' (work (sh.movedTo dir') t cl) := by
  have hstart := hsame.start (work_evolves sh t cl)
  rw [lookups, withinLimits_cons] at hlimits
  obtain ⟨hfile, hrest⟩ := hlimits
  obtain ⟨hresult, hevents⟩ := Settings.resolve_movedTo hstart hfile cl.flags
  cases hs : (Settings.resolve sh t cl.config cl.flags).result with
  | error why =>
    obtain ⟨why', hs', hwhy⟩ := hresult.of_error hs
    rw [work_of_error hs, work_of_error hs']
    exact finish_sameBut (badSettings_sameBut hwhy) hevents t
  | ok s =>
    rw [hs] at hrest
    rw [work_of_ok hs, perform_tree] at hsame
    rw [work_of_ok hs, work_of_ok (hresult.ok_iff.1 hs)]
    obtain ⟨hexit, hran, htree⟩ := perform_movedTo hsame hrest
    exact ⟨hexit, hevents.append hran, htree⟩

theorem run_here {words : List String} {cl : CommandLine}
    (hread : CommandLine.read words = .ok { cl with directory := none }) (hwork : cl.isHelpOnly = false) :
    run sh t words = work sh t cl := by
  rw [run_of_work hread (isHelpOnly_eq_false_iff.1 hwork), workThere]
  rfl

theorem run_there {words : List String} {cl : CommandLine} {dir : String} {p : Location}
    (hread : CommandLine.read words = .ok { cl with directory := some dir }) (hwork : cl.isHelpOnly = false)
    (hp : t.resolveDirectory [] (sh.path dir) = .ok p) :
    run sh t words = work (sh.movedTo (sh.path dir)) t cl := by
  have hisDirectory : t.isDirectory [] (sh.path dir) = true := by
    rw [Tree.isDirectory, hp]
    rfl
  rw [run_of_work hread (isHelpOnly_eq_false_iff.1 hwork), workThere, enter, Shell.changeDirectory,
    if_pos hisDirectory]
  rfl

end Program

end Settling

namespace Program

/-- A run of the program that is started in a directory. -/
def startedIn (d : Location) (env : Variables) (t : Tree) (words : List String) : ProgramOutcome :=
  run (Shell.start d.path env) t words

variable {env : Variables} {t : Tree} {start p : Location} {dir : String} {words words' : List String}
  {cl : CommandLine}

theorem startedIn_of_help (hread : CommandLine.read words = .ok cl) (hhelp : cl.isHelpOnly = true)
    (d : Location) : startedIn d env t words = finish .helpOnly [] t :=
  run_of_idle hread (isHelpOnly_iff.1 hhelp)

/-- A run that changes to a directory first is as a run that is started there, if nothing goes that the path to
the directory passes before it, and short of the limits on the length of paths and on links: both read the same
settings file, settle the same settings, make the same calls, end with the same exit code and leave the same
tree, and what they print differs only in what is shown of the working directory. -/
theorem as_if_started_there (hread : CommandLine.read words = .ok { cl with directory := some dir })
    (hread' : CommandLine.read words' = .ok { cl with directory := none })
    (hp : t.resolveDirectory [] (Path.join start.path dir) = .ok p) (hsize : p.path.utf8ByteSize ≤ pathLimit)
    (hkept : ∀ q, t.OnWay (Path.join start.path dir) q → q ≠ p →
      (startedIn start env t words).tree.lookup q ≠ none)
    (hlimits : WithinLimits (Path.join start.path dir) p.path
      (lookups (Shell.start (Path.join start.path dir) env) t cl)) :
    t.resolve [] (Path.join (Path.join start.path dir) (cl.config.getD Settings.fileName)) =
        t.resolve [] (Path.join p.path (cl.config.getD Settings.fileName)) ∧
      (∀ s, (Settings.resolve (Shell.start (Path.join start.path dir) env) t cl.config cl.flags).result = .ok s ↔
        (Settings.resolve (Shell.start p.path env) t cl.config cl.flags).result = .ok s) ∧
      callsOf (startedIn p env t words').events = callsOf (startedIn start env t words).events ∧
      (startedIn p env t words').verdict.exitCode = (startedIn start env t words).verdict.exitCode ∧
      (startedIn p env t words').tree = (startedIn start env t words).tree ∧
      Text.SameBut (Path.join start.path dir) p.path (stdoutOf (startedIn start env t words).events)
        (stdoutOf (startedIn p env t words').events) ∧
      Text.SameBut (Path.join start.path dir) p.path (stderrOf (startedIn start env t words).events)
        (stderrOf (startedIn p env t words').events) := by
  have habs := Path.isAbsolute_join_of_absolute (Path.isAbsolute_path start) dir
  have hstart : t.SameDirectory (Path.join start.path dir) p.path :=
    (Evolves.refl t).sameDirectory (.refl t) habs hp hsize fun q hq _ => hq.2
  obtain ⟨hfile, -⟩ := withinLimits_cons.1 hlimits
  obtain ⟨hsettled, -⟩ :=
    @Settings.resolve_movedTo
      (Shell.start (Path.join start.path dir) env) p.path t cl.config hstart hfile cl.flags
  have hsame : (startedIn start env t words).SameBut (Path.join start.path dir) p.path
      (startedIn p env t words') := by
    cases hhelp : cl.isHelpOnly with
    | true =>
      rw [startedIn_of_help hread hhelp, startedIn_of_help hread' hhelp]
      exact ⟨rfl, SameEvents.refl _ _ _, rfl⟩
    | false =>
      have hthere : startedIn start env t words = work (Shell.start (Path.join start.path dir) env) t cl :=
        run_there hread hhelp hp
      have hhere : startedIn p env t words' = work (Shell.start p.path env) t cl := run_here hread' hhelp
      rw [hthere] at hkept ⊢
      rw [hhere]
      exact @work_movedTo (Shell.start (Path.join start.path dir) env) p.path t cl
        (fun u hu hon => hu.sameDirectory hon habs hp hsize hkept) hlimits
  exact ⟨hstart.resolve_join hfile, fun s => hsettled.ok_iff, hsame.events.callsOf_eq, hsame.exitCode, hsame.tree,
    hsame.events.stdoutOf, hsame.events.stderrOf⟩

/-! ## A sample -/

/-- A script that prints nothing and leaves no report. -/
def silentCheck : Tool := ⟨"linkcheck", [], "", "", .exited 0⟩

/-- A workspace with documents that a link leads to. -/
def docsTree : Tree :=
  ⟨[(["ws"], .directory), (["here", "ws"], .link "docs"), (["docs", "ws"], .directory),
    (["scripts", "docs", "ws"], .directory), (["linkcheck.sh", "scripts", "docs", "ws"], .tool silentCheck)]⟩

/-- The command line of the sample. -/
def checkLine : CommandLine := ⟨[.linkcheck], none, none, {}⟩

/-- What the script is started with. -/
def checkCall : Call := ⟨"linkcheck", ["docs", "ws"], [("SOURCEDIR", "src"), ("BUILDDIR", "build")], []⟩

theorem startedIn_docsTree :
    startedIn ["ws"] [] docsTree ["-C", "here", "linkcheck"] =
      ⟨.succeeded, [.echo "/ws/here/scripts/linkcheck.sh", .call checkCall, .toolPrint "", .toolComplain "",
        .print (Recipe.linkcheckTrailer .default)], docsTree⟩ := by rfl

theorem lookups_docsTree :
    lookups (Shell.start "/ws/here" []) docsTree checkLine =
      ["doctasks.toml", "build/linkcheck/output.json", "scripts/linkcheck.sh", "build/linkcheck/output.json"].map
        (docsTree, ·) := by rfl

theorem withinLimits_docsTree :
    WithinLimits "/ws/here" "/ws/docs" (lookups (Shell.start "/ws/here" []) docsTree checkLine) := by
  rw [lookups_docsTree, WithinLimits, List.forall_mem_map]
  intro q hq
  fin_cases hq <;> exact ⟨by decide, by decide⟩

/-- Checking the links through the link and in the documents themselves starts the script in one directory. The
path of the script is shown as it is read. -/
theorem as_if_started_there_sample :
    callsOf (startedIn ["docs", "ws"] [] docsTree ["linkcheck"]).events = [checkCall] ∧
      (startedIn ["docs", "ws"] [] docsTree ["linkcheck"]).verdict.exitCode = 0 ∧
      Text.SameBut "/ws/here" "/ws/docs" "$ /ws/here/scripts/linkcheck.sh\n"
        (stderrOf (startedIn ["docs", "ws"] [] docsTree ["linkcheck"]).events) := by
  have hthere : Path.join (Location.path ["ws"]) "here" = "/ws/here" := by rfl
  have hhere : Location.path ["docs", "ws"] = "/ws/docs" := by rfl
  have hsame :=
    @as_if_started_there [] docsTree ["ws"] ["docs", "ws"] "here" ["-C", "here", "linkcheck"] ["linkcheck"]
    checkLine (by rfl) (by rfl) (by rfl) (by decide)
  rw [startedIn_docsTree, hthere, hhere] at hsame
  obtain ⟨-, -, hcalls, hexit, -, -, hstderr⟩ := hsame (fun q hq _ => hq.2) withinLimits_docsTree
  exact ⟨hcalls, hexit, hstderr⟩

end Program

end DocRunner
