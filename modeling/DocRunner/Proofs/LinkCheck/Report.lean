import DocRunner.Proofs.Path.Join
import DocRunner.Proofs.Run.Course
import DocRunner.Proofs.Tree.Read

/-!
# The report of a link check and its result

* `Recipe.linkcheck_of_success` : behind a script that has succeeded, a link check goes on as its report does;
* `Recipe.linkcheck_succeeds_iff` : such a link check succeeds exactly if nothing stands at the
  report's path, or what stands there can be read as a text. Otherwise it fails with the cause for
  which the report cannot be read;
* `Recipe.linkcheck_fails_at_its_report` : so a script that succeeds does not make the link check succeed.
-/

namespace DocRunner

/-- The report of the link check, as it is joined to the working directory. -/
def Settings.reportFile (s : Settings) : String := Path.join s.linkcheckDir "output.json"

namespace Recipe

open DocRunner.Tree

variable {sh : Shell} {s : Settings} {t t' : Tree} {d : Location} {script : Tool}

theorem reportPath_eq (sh : Shell) (s : Settings) : reportPath sh s = sh.path s.reportFile :=
  Path.join_assoc sh.directory s.linkcheckDir "output.json"

/-! ## Showing the report -/

theorem showReport_of_missing {why : Refusal} (h : t.resolve [] (reportPath sh s) = .error why) :
    (showReport sh s t).result = .ok () := by
  rw [showReport, isThere_of_error h]
  rfl

theorem showReport_of_readable {place : Location} {text : String} (h : t.resolve [] (reportPath sh s) = .ok place)
    (hread : t.readText [] (reportPath sh s) = .ok text) : (showReport sh s t).result = .ok () := by
  rw [showReport, if_pos (isThere_of_ok h), hread]
  rfl

theorem showReport_of_unreadable {place : Location} {why : Refusal}
    (h : t.resolve [] (reportPath sh s) = .ok place) (hread : t.readText [] (reportPath sh s) = .error why) :
    (showReport sh s t).result = .error (.unreadableFile why) := by
  rw [showReport, if_pos (isThere_of_ok h), hread]
  rfl

/-- What keeps a report from being shown: a directory stands in its place, or its bytes are no text. -/
def HindersReport (why : Failure) (e : Entry) : Prop :=
  e = .directory ∧ why = .unreadableFile .isDirectory ∨
    (∃ bytes, e = .file bytes ∧ ¬ bytes.IsValidUTF8) ∧ why = .unreadableFile .notUtf8

/-- Either there is no report, or one that can be read as a text, and it is shown; or something hinders that. -/
theorem showReport_cases (sh : Shell) (s : Settings) (t : Tree) :
    ((showReport sh s t).result = .ok () ∧
        ∀ place e, t.resolve [] (reportPath sh s) = .ok place → t.lookup place = some e → e.IsText) ∨
      ∃ why place e, (showReport sh s t).result = .error why ∧ t.resolve [] (reportPath sh s) = .ok place ∧
        t.lookup place = some e ∧ HindersReport why e ∧ ¬ e.IsText := by
  cases hr : t.resolve [] (reportPath sh s) with
  | error why => exact Or.inl ⟨showReport_of_missing hr, fun _ _ h => nomatch h⟩
  | ok place =>
    obtain ⟨e, he, hlink⟩ := lookup_of_resolve rfl hr
    by_cases htext : e.IsText
    · obtain ⟨text, hread⟩ := readText_of_isText hr he htext
      refine Or.inl ⟨showReport_of_readable hr hread, fun place' e' hplace he' => ?_⟩
      cases hplace
      rw [he] at he'
      cases he'
      exact htext
    · rcases readText_of_not_isText hr he hlink htext with ⟨hdir, hread⟩ | ⟨⟨bytes, rfl⟩, hread⟩
      · exact Or.inr ⟨_, place, e, showReport_of_unreadable hr hread, rfl, he, Or.inl ⟨hdir, rfl⟩, htext⟩
      · exact Or.inr ⟨_, place, _, showReport_of_unreadable hr hread, rfl, he,
          Or.inr ⟨⟨bytes, rfl, htext⟩, rfl⟩, htext⟩

/-! ## Behind a script that has succeeded -/

/-- The tree that the script of a link check leaves. -/
def scriptTree (sh : Shell) (s : Settings) (d : Location) (script : Tool) (t : Tree) : Tree :=
  script.write d (sh.varsFor (s.linkcheckCommand sh)) [] t

theorem linkcheck_of_success (hremoved : t.removePath [] (reportPath sh s) = .ok t')
    (hfound : sh.find t' (s.linkcheckCommand sh) = .ok (d, script)) (hzero : script.ending = .exited 0) :
    (linkcheck sh s t).result = (showReport sh s (scriptTree sh s d script t')).result := by
  have hprepared : removeReport sh s t = .done [] t' := by
    unfold removeReport
    rw [hremoved]
  have hran : (sh.run (s.linkcheckCommand sh) t').result = .ok () := by
    rw [Shell.run_of_found hfound]
    exact Ending.result_eq_ok.2 hzero
  have hleft : (sh.run (s.linkcheckCommand sh) t').tree = scriptTree sh s d script t' := by
    rw [Shell.run_of_found hfound]
    rfl
  rw [linkcheck, hprepared, Outcome.done_andThen, Outcome.result_after, Outcome.andThen_of_ok hran,
    Outcome.result_after, Outcome.result_after, hleft]

/-- Behind a script that has succeeded, the link check succeeds exactly if there is no report, or one that can
be read as a text. Otherwise it fails, with the exit code 1. -/
theorem linkcheck_succeeds_iff (hremoved : t.removePath [] (reportPath sh s) = .ok t')
    (hfound : sh.find t' (s.linkcheckCommand sh) = .ok (d, script)) (hzero : script.ending = .exited 0) :
    ((linkcheck sh s t).result = .ok () ↔
        ∀ place e, (scriptTree sh s d script t').resolve [] (reportPath sh s) = .ok place →
          (scriptTree sh s d script t').lookup place = some e → e.IsText) ∧
      ∀ why, (linkcheck sh s t).result = .error why → why.exitCode = 1 ∧
        ∃ place e, (scriptTree sh s d script t').resolve [] (reportPath sh s) = .ok place ∧
          (scriptTree sh s d script t').lookup place = some e ∧ HindersReport why e := by
  rw [linkcheck_of_success hremoved hfound hzero]
  rcases showReport_cases sh s (scriptTree sh s d script t') with ⟨hok, hall⟩ |
    ⟨why, place, e, hfail, hr, he, hcause, hno⟩
  · refine ⟨iff_of_true hok hall, fun why hfail => ?_⟩
    rw [hok] at hfail
    cases hfail
  · rw [hfail]
    refine ⟨iff_of_false (fun hok => nomatch hok) fun hall => hno (hall place e hr he), fun other hother => ?_⟩
    cases hother
    refine ⟨?_, place, e, hr, he, hcause⟩
    rcases hcause with ⟨-, rfl⟩ | ⟨-, rfl⟩
    · rfl
    · rfl

/-! ## A sample -/

/-- The shell of a workspace. -/
def reportShell : Shell := ⟨"/ws", [], none⟩

/-- A script that leaves some bytes as its report. -/
def reportWriter (bytes : ByteArray) : Tool :=
  ⟨"linkcheck", [⟨"\x7bBUILDDIR\x7d/linkcheck/output.json", bytes⟩], "", "", .exited 0⟩

/-- A workspace with nothing but the script. -/
def scriptOnly (bytes : ByteArray) : Tree :=
  ⟨[(["ws"], .directory), (["scripts", "ws"], .directory),
    (["linkcheck.sh", "scripts", "ws"], .tool (reportWriter bytes))]⟩

/-- The workspace behind the script. -/
def scriptAndReport (bytes : ByteArray) : Tree :=
  ⟨[(["output.json", "linkcheck", "build", "ws"], .file bytes), (["linkcheck", "build", "ws"], .directory),
    (["build", "ws"], .directory)] ++ (scriptOnly bytes).records⟩

theorem writeFile_scriptOnly (bytes : ByteArray) :
    (scriptOnly bytes).writeFile ["ws"] "build/linkcheck/output.json" bytes = scriptAndReport bytes := by
  have hcheck : checkPath "build/linkcheck/output.json" = .ok () := by rfl
  have hparts : Path.components "build/linkcheck/output.json" = ["build", "linkcheck", "output.json"] := by rfl
  have horigin : origin "build/linkcheck/output.json" ["ws"] = ["ws"] := by rfl
  rw [writeFile, hcheck, hparts, horigin]
  rfl

theorem scriptTree_scriptOnly (bytes : ByteArray) :
    scriptTree reportShell Settings.default ["ws"] (reportWriter bytes) (scriptOnly bytes) =
      scriptAndReport bytes := by
  have hdir : ((reportShell.varsFor (Settings.default.linkcheckCommand reportShell)).get? "BUILDDIR").getD "" =
      "build" := by rfl
  have htarget : Write.target ⟨"\x7bBUILDDIR\x7d/linkcheck/output.json", bytes⟩ "" "build" =
      "build/linkcheck/output.json" := by
    dsimp only [Write.target]
    rw [if_neg (by decide), if_pos (by decide)]
    decide
  rw [scriptTree, Tool.write, hdir, reportWriter, List.foldl_cons, List.foldl_nil, List.getLast?_nil,
    Option.getD_none, htarget, writeFile_scriptOnly]

theorem removePath_scriptOnly (bytes : ByteArray) :
    (scriptOnly bytes).removePath [] (reportPath reportShell Settings.default) = .ok (scriptOnly bytes) := by rfl

theorem find_scriptOnly (bytes : ByteArray) :
    reportShell.find (scriptOnly bytes) (Settings.default.linkcheckCommand reportShell) =
      .ok (["ws"], reportWriter bytes) := by rfl

/-- Behind the script, the path of the report leads to the bytes that the script has left. -/
theorem resolve_scriptAndReport (bytes : ByteArray) :
    (scriptAndReport bytes).resolve [] (reportPath reportShell Settings.default) =
      .ok ["output.json", "linkcheck", "build", "ws"] := by rfl

/-- A report that is a text does no harm, even if no line of it can be understood. -/
theorem linkcheck_succeeds_sample :
    (linkcheck reportShell Settings.default (scriptOnly "no report\n".toUTF8)).result = .ok () := by
  refine (linkcheck_succeeds_iff (removePath_scriptOnly _) (find_scriptOnly _) rfl).1.2 fun place e hr he => ?_
  rw [scriptTree_scriptOnly, resolve_scriptAndReport] at hr
  cases hr
  rw [scriptTree_scriptOnly] at he
  cases he
  exact String.isValidUTF8 _

/-- A script that succeeds does not make its link check succeed: a report of the one byte 0xff is no text. -/
theorem linkcheck_fails_at_its_report :
    ¬ ∀ (sh : Shell) (s : Settings) (t t' : Tree) (d : Location) (script : Tool),
      t.removePath [] (reportPath sh s) = .ok t' → sh.find t' (s.linkcheckCommand sh) = .ok (d, script) →
        script.ending = .exited 0 → (linkcheck sh s t).result = .ok () := by
  intro h
  have hread : (scriptAndReport ⟨#[0xff]⟩).readText [] (reportPath reportShell Settings.default) =
      .error .notUtf8 := by
    rw [readText, resolve_scriptAndReport]
    rfl
  have hok := h _ _ _ _ _ _ (removePath_scriptOnly ⟨#[0xff]⟩) (find_scriptOnly ⟨#[0xff]⟩) rfl
  rw [linkcheck_of_success (removePath_scriptOnly ⟨#[0xff]⟩) (find_scriptOnly ⟨#[0xff]⟩) rfl,
    scriptTree_scriptOnly, showReport_of_unreadable (resolve_scriptAndReport _) hread] at hok
  cases hok

end Recipe

end DocRunner
