import DocRunner.Proofs.Reported
import DocRunner.Proofs.Text.Lines
import Mathlib.Logic.Relation

/-!
# The lines of a link report do not touch each other

* `brokenLines report` : the lines of a report that are read as entries of broken links;
* `Idle line` : a line is blank, or no entry, or an entry with another status;
* `Edit report report'` : idle lines are put in somewhere between the lines, a line gets another end,
  or the last line gets one;
* `brokenLines_of_edit` : an edit leaves the lines of broken links as they are;
* `summarize_isolates` : so it leaves the summary as it is, which depends on these lines only. Two reports in
  one are summed up as the links of the first and then those of the second, and each line that is neither blank
  nor an entry is told of once, before that.
-/

namespace DocRunner.LinkReport

/-- Whether a line is read as the entry of a broken link. -/
def isBrokenLine (line : String) : Bool :=
  match Entry.ofLine? line with
  | .ok e => e.isBroken
  | .error _ => false

/-- The lines of a report that are entries of broken links. -/
def brokenLines (report : String) : List String :=
  (Text.lines report).filter isBrokenLine

/-- The lines of a report that are neither blank nor entries. -/
def unreadableLines (report : String) : List String :=
  (Text.lines report).filter fun line => !Text.isBlankText line && !(Entry.ofLine? line).isOk

/-- A line that has nothing to say about broken links. -/
inductive Idle (line : String) : Prop
  | blank (h : Text.isBlankText line = true)
  | unreadable {why : DocumentError} (h : Entry.ofLine? line = .error why)
  | other {e : Entry} (h : Entry.ofLine? line = .ok e) (hstatus : e.status ≠ "broken")

/-- A change of a report that keeps the lines of broken links: idle lines are put in where a line starts, a line
feed gets a carriage return, or the last line gets an end. -/
inductive Edit : String → String → Prop
  | insert {before lines after : String} (hbefore : Text.LineEnded before.toList)
      (hlines : Text.LineEnded lines.toList ∨ after = "") (hidle : ∀ line ∈ Text.lines lines, Idle line) :
      Edit (before ++ after) (before ++ lines ++ after)
  | carriageReturn {before after : String} (h : before.toList.getLast? ≠ some '\r') :
      Edit (before ++ "\n" ++ after) (before ++ "\r\n" ++ after)
  | lastEnd {report : String} (h : report.toList.getLast? ≠ some '\r') : Edit report (report ++ "\n")
  | lastReturn {report : String} : Edit report (report ++ "\r\n")

/-- An event tells of a line that is no entry, and of what is wrong with it. -/
def TellsOf (event : Event) (line : String) : Prop :=
  ∃ why, Entry.ofLine? line = .error why ∧
    event = .note ("Skipping unreadable report line: " ++ why.message "JSON syntax error")

variable {report report' line : String} {e : Entry}

/-! ## Lines -/

theorem lines_append {before : String} (h : Text.LineEnded before.toList) (after : String) :
    Text.lines (before ++ after) = Text.lines before ++ Text.lines after := by
  rw [Text.lines, String.toList_append, Text.lineChars_append h, List.map_append]
  rfl

/-- A blank line is no entry. -/
theorem ofLine?_of_blank (h : Text.isBlankText line = true) : ∃ why, Entry.ofLine? line = .error why := by
  have hblank : ∀ c ∈ Json.skipSpaces line.toList, Text.isBlank c = true := by
    intro c hc
    exact List.all_eq_true.1 h c (List.dropWhile_subset _ hc)
  rw [Entry.ofLine?]
  generalize Json.skipSpaces line.toList = cs at hblank
  cases cs with
  | nil => exact ⟨_, rfl⟩
  | cons c cs =>
    -- an entry would start with a bracket or a brace, which are no blanks
    have hc := hblank c List.mem_cons_self
    split
    · exact ⟨_, rfl⟩
    · rename_i heq
      split at heq
      · rename_i hopen
        cases hopen
        exact absurd hc (by decide)
      · rename_i hopen
        cases hopen
        exact absurd hc (by decide)
      · cases heq

theorem isBrokenLine_of_ok (h : Entry.ofLine? line = .ok e) : isBrokenLine line = e.isBroken := by
  rw [isBrokenLine, h]

theorem isBrokenLine_of_error {why : DocumentError} (h : Entry.ofLine? line = .error why) :
    isBrokenLine line = false := by
  rw [isBrokenLine, h]

theorem Idle.isBrokenLine_eq (h : Idle line) : isBrokenLine line = false := by
  cases h with
  | blank hblank =>
    obtain ⟨why, hwhy⟩ := ofLine?_of_blank hblank
    exact isBrokenLine_of_error hwhy
  | unreadable hwhy => exact isBrokenLine_of_error hwhy
  | other he hstatus =>
    rw [isBrokenLine_of_ok he]
    exact beq_false_of_ne hstatus

theorem brokenLines_append (h : Text.LineEnded report.toList) (report' : String) :
    brokenLines (report ++ report') = brokenLines report ++ brokenLines report' := by
  rw [brokenLines, lines_append h, List.filter_append]
  rfl

theorem brokenLines_eq_nil (h : ∀ line ∈ Text.lines report, Idle line) : brokenLines report = [] := by
  rw [brokenLines, List.filter_eq_nil_iff]
  intro line hline
  rw [(h line hline).isBrokenLine_eq]
  decide

/-- Lines that are the same but for an empty one at the end. -/
theorem brokenLines_of_lastEnd {cs : List Char}
    (h : Text.lineChars cs = Text.lineChars report.toList ∨
      Text.lineChars cs = Text.lineChars report.toList ++ [[]]) :
    ((Text.lineChars cs).map String.ofList).filter isBrokenLine = brokenLines report := by
  rcases h with hsame | hmore
  · rw [hsame]
    rfl
  · have hempty : isBrokenLine (String.ofList []) = false := (Idle.blank (by decide)).isBrokenLine_eq
    rw [hmore, List.map_append, List.filter_append, List.map_singleton, List.filter_singleton, hempty]
    exact List.append_nil _

/-- An edit leaves the lines of broken links as they are. -/
theorem brokenLines_of_edit (h : Edit report report') : brokenLines report' = brokenLines report := by
  cases h with
  | @insert before lines after hbefore hlines hidle =>
    rw [String.append_assoc, brokenLines_append hbefore, brokenLines_append hbefore]
    rcases hlines with hended | rfl
    · rw [brokenLines_append hended, brokenLines_eq_nil hidle, List.nil_append]
    · rw [String.append_empty, brokenLines_eq_nil hidle]
      rfl
  | @carriageReturn before after h =>
    have hsame := Text.lineChars_return h after.toList
    rw [brokenLines, brokenLines, Text.lines, Text.lines]
    simp only [String.toList_append, List.append_assoc]
    exact congrArg (fun rows => (rows.map String.ofList).filter isBrokenLine) hsame
  | lastEnd h =>
    rw [brokenLines, Text.lines, String.toList_append]
    exact brokenLines_of_lastEnd (Text.lineChars_lastEnd h)
  | lastReturn =>
    rw [brokenLines, Text.lines, String.toList_append]
    exact brokenLines_of_lastEnd (Text.lineChars_lastEnd_return _)

theorem brokenLines_of_eqvGen (h : Relation.EqvGen Edit report report') :
    brokenLines report = brokenLines report' := by
  induction h with
  | rel _ _ h => exact (brokenLines_of_edit h).symm
  | refl => rfl
  | symm _ _ _ ih => exact ih.symm
  | trans _ _ _ _ _ ih ih' => exact ih.trans ih'

/-! ## The summary -/

/-- The entries of broken links are those of the lines of broken links. -/
theorem map_ofLine?_brokenLines (report : String) :
    (brokenLines report).map Entry.ofLine? = (broken report).map .ok := by
  rw [brokenLines, broken, entryLines]
  generalize Text.lines report = lines
  induction lines with
  | nil => rfl
  | cons line lines ih =>
    by_cases hblank : Text.isBlankText line = true
    · rw [List.filter_cons_of_neg (by simp [(Idle.blank hblank).isBrokenLine_eq]), ih,
        List.filter_cons_of_neg (by simp [hblank])]
    · rw [List.filter_cons_of_pos (p := fun line => !Text.isBlankText line) (by simpa using hblank)]
      cases hline : Entry.ofLine? line with
      | error why =>
        rw [List.filter_cons_of_neg (by simp [isBrokenLine_of_error hline]), ih,
          List.filterMap_cons_none (by simp [hline])]
      | ok e =>
        by_cases hbroken : e.isBroken = true
        · rw [List.filter_cons_of_pos (by rw [isBrokenLine_of_ok hline, hbroken]),
            List.filterMap_cons_some (b := e) (by simp [hline, hbroken]), List.map_cons, List.map_cons, ih, hline]
        · rw [List.filter_cons_of_neg (by rw [isBrokenLine_of_ok hline]; exact hbroken), ih,
            List.filterMap_cons_none (by simp [hline, hbroken])]

theorem broken_of_brokenLines (h : brokenLines report = brokenLines report') :
    broken report = broken report' := by
  have hmap : (broken report).map Except.ok = (broken report').map (Except.ok (ε := DocumentError)) := by
    rw [← map_ofLine?_brokenLines, ← map_ofLine?_brokenLines, h]
  exact List.map_injective_iff.2 (fun _ _ => Except.ok.inj) hmap

theorem broken_append (h : Text.LineEnded report.toList) (report' : String) :
    broken (report ++ report') = broken report ++ broken report' := by
  rw [broken, entryLines, lines_append h, List.filter_append, List.filterMap_append]
  rfl

/-- In verbose mode each line that is neither blank nor an entry is told of once, in order. -/
theorem complaints_of_loud {sh : Shell} (hloud : sh.isQuiet = false) (report : String) :
    List.Forall₂ TellsOf (complaints sh report) (unreadableLines report) := by
  rw [complaints, entryLines, unreadableLines]
  generalize Text.lines report = lines
  induction lines with
  | nil => exact .nil
  | cons line lines ih =>
    by_cases hblank : Text.isBlankText line = true
    · rw [List.filter_cons_of_neg (by simp [hblank]), List.filter_cons_of_neg (by simp [hblank])]
      exact ih
    · rw [List.filter_cons_of_pos (p := fun line => !Text.isBlankText line) (by simpa using hblank),
        List.flatMap_cons]
      cases hline : Entry.ofLine? line with
      | ok e =>
        rw [List.filter_cons_of_neg (by simp [hline, Except.isOk, Except.toBool])]
        exact ih
      | error why =>
        rw [List.filter_cons_of_pos (by simp [hline, hblank, Except.isOk, Except.toBool])]
        dsimp only
        rw [Shell.note, hloud]
        exact .cons ⟨why, hline, rfl⟩ ih

/-- The summary depends only on the lines of broken links, in order. So lines that are blank, no entries or
entries with another status can be put in or taken out between the lines, line ends can be exchanged, and the
last one can be left out. Of two reports in one, the links of the first are listed and then those of the second,
and their numbers are added up. In verbose mode, each line that is neither blank nor an entry is told of once,
in order and before the summary, and nothing else is told. -/
theorem summarize_isolates (path : String) :
    (∀ sh report, (brokenLines report).map Entry.ofLine? = (broken report).map .ok ∧
      outOf (summarize sh path report) = summary path (broken report)) ∧
    (∀ sh sh' report report', brokenLines report = brokenLines report' →
      outOf (summarize sh path report) = outOf (summarize sh' path report')) ∧
    (∀ sh sh' report report', Relation.EqvGen Edit report report' →
      outOf (summarize sh path report) = outOf (summarize sh' path report')) ∧
    (∀ sh report report', Text.LineEnded report.toList → Text.LineEnded report'.toList →
      outOf (summarize sh path (report ++ report')) =
        if broken report = [] ∧ broken report' = [] then "No broken links reported in " ++ path ++ ".\n"
        else "Found " ++ toString ((broken report).length + (broken report').length) ++ " broken link(s):\n" ++
          String.join ((broken report).map Entry.record) ++ String.join ((broken report').map Entry.record)) ∧
    ∀ sh report, sh.isQuiet = false → ∃ told, List.Forall₂ TellsOf told (unreadableLines report) ∧
      summarize sh path report = told ++ [.print (summary path (broken report))] := by
  have hout : ∀ sh sh' report report', brokenLines report = brokenLines report' →
      outOf (summarize sh path report) = outOf (summarize sh' path report') := by
    intro sh sh' report report' h
    rw [outOf_summarize, outOf_summarize, broken_of_brokenLines h]
  refine ⟨fun sh report => ⟨map_ofLine?_brokenLines report, outOf_summarize sh path report⟩, hout, ?_, ?_, ?_⟩
  · intro sh sh' report report' h
    exact hout sh sh' report report' (brokenLines_of_eqvGen h)
  · intro sh report report' h _
    rw [outOf_summarize, broken_append h, summary]
    simp only [List.isEmpty_iff, List.append_eq_nil_iff, List.length_append, List.map_append, String.join_append,
      String.append_assoc]
  · intro sh report hloud
    exact ⟨complaints sh report, complaints_of_loud hloud report, rfl⟩

/-! ## A sample -/

/-- A report of one line, without an end. -/
def tidyReport : String := "\x7b\"filename\":\"a\",\"status\":\"broken\",\"uri\":\"u\"\x7d"

/-- The same line with an end, behind one that is no entry and a blank one. -/
def messyReport : String := "\x7bjunk\r\n\u2003 \n" ++ (tidyReport ++ "\r\n")

theorem broken_tidyReport : broken tidyReport = [⟨"a", none, "broken", "u", ""⟩] := by rfl

theorem eqvGen_messyReport : Relation.EqvGen Edit tidyReport messyReport := by
  have hlines : Text.lines "\x7bjunk\r\n\u2003 \n" = ["\x7bjunk", "\u2003 "] := by rfl
  have hjunk : Idle "\x7bjunk" := @Idle.unreadable _ .malformed (by rfl)
  have hblank : Idle "\u2003 " := .blank (by rfl)
  have hidle : ∀ line ∈ Text.lines "\x7bjunk\r\n\u2003 \n", Idle line := by
    rw [hlines]
    exact List.forall_mem_cons.2 ⟨hjunk, List.forall_mem_singleton.2 hblank⟩
  have hended : Text.LineEnded "\x7bjunk\r\n\u2003 \n".toList :=
    Text.lineEnded_concat "\x7bjunk\r\n\u2003 ".toList
  have hinsert := @Edit.insert "" _ (tidyReport ++ "\r\n") Text.lineEnded_nil (Or.inl hended) hidle
  rw [String.empty_append, String.empty_append] at hinsert
  exact .trans _ _ _ (.rel _ _ .lastReturn) (.rel _ _ hinsert)

/-- The lines around the one of the broken link change nothing, and a report that is repeated has it twice. -/
theorem summarize_isolates_sample :
    outOf (summarize ⟨"/ws", [], none⟩ "report" messyReport) = "Found 1 broken link(s):\n  a: u\n" ∧
      outOf (summarize ⟨"/ws", [], none⟩ "report" (tidyReport ++ "\n" ++ (tidyReport ++ "\n"))) =
        "Found 2 broken link(s):\n  a: u\n  a: u\n" := by
  obtain ⟨hout, -, hedit, happend, -⟩ := summarize_isolates "report"
  have hended : Text.LineEnded (tidyReport ++ "\n").toList := by
    rw [String.toList_append]
    exact Text.lineEnded_concat tidyReport.toList
  have hbroken : broken (tidyReport ++ "\n") = [⟨"a", none, "broken", "u", ""⟩] := by rfl
  constructor
  · rw [← hedit ⟨"/ws", [], none⟩ _ _ _ eqvGen_messyReport, (hout _ _).2, broken_tidyReport]
    rfl
  · rw [happend _ _ _ hended hended, hbroken]
    rfl

end DocRunner.LinkReport
