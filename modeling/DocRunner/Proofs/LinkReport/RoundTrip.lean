import DocRunner.Proofs.LinkReport.Line
import DocRunner.Proofs.Text.Lines

/-!
# Reports that are written line by line

* `Written es cs` : `cs` has a line for each entry, in order. A line may end with a carriage return in front of
  its line feed, which is white space behind the object, and the last line may end with the text;
* `map_ofLine?_of_written` : the lines of such a report are read as the entries;
* `summarize_written` : its summary says nothing but how many of the entries are broken, and which.
-/

namespace DocRunner.LinkReport

open Json

/-- A report with a line for each entry. -/
inductive Written : List Entry → List Char → Prop
  | nil : Written [] []
  | last {e : Entry} {line : List Char} (h : e.IsLine line) (hline : '\n' ∉ line) : Written [e] line
  | more {e : Entry} {es : List Entry} {line cs : List Char} (h : e.IsLine line) (hline : '\n' ∉ line)
      (hmore : Written es cs) : Written (e :: es) (line ++ '\n' :: cs)

variable {e : Entry} {es : List Entry} {cs line : List Char}

/-! ## Reading the lines -/

/-- A carriage return behind the object is white space. -/
theorem Entry.IsLine.dropReturn (h : e.IsLine (line ++ ['\r'])) : e.IsLine line := by
  generalize hcs : line ++ ['\r'] = cs at h
  cases h with
  | @mk sp₁ sp₂ sp₃ members fs h₁ h₂ hmembers hcomplete h₃ =>
    rcases List.eq_nil_or_concat sp₃ with rfl | ⟨sp, last, rfl⟩
    · have hlast : line ++ ['\r'] = (sp₁ ++ '\x7b' :: (sp₂ ++ members)) ++ ['\x7d'] := by simpa using hcs
      cases (List.append_inj' hlast rfl).2
    · have hlast : line ++ ['\r'] = (sp₁ ++ '\x7b' :: (sp₂ ++ (members ++ '\x7d' :: sp))) ++ [last] := by
        simpa using hcs
      have hsp : Spaces sp := fun c hc => h₃ c (by simp [hc])
      rw [(List.append_inj' hlast rfl).1]
      exact .mk h₁ h₂ hmembers hcomplete hsp

theorem Entry.IsLine.not_isBlankText (h : e.IsLine cs) : Text.isBlankText (String.ofList cs) = false := by
  cases h with
  | @mk sp₁ sp₂ sp₃ members fs h₁ h₂ hmembers hcomplete h₃ =>
    rw [Text.isBlankText, String.toList_ofList, List.all_eq_false]
    exact ⟨'\x7b', by simp, by decide⟩

theorem Entry.IsLine.ne_nil (h : e.IsLine cs) : cs ≠ [] := by
  cases h
  simp

/-- The line of an entry is not blank, and it is read as the entry. -/
theorem readLines_cons (h : e.IsLine line) (lines : List (List Char)) :
    (((line :: lines).map String.ofList).filter (!Text.isBlankText ·)).map Entry.ofLine? =
      .ok e :: ((lines.map String.ofList).filter (!Text.isBlankText ·)).map Entry.ofLine? := by
  rw [List.map_cons, List.filter_cons_of_pos, List.map_cons, Entry.ofLine?_of_isLine h]
  rw [h.not_isBlankText]
  rfl

/-- The lines of a report are read as its entries. -/
theorem map_ofLine?_of_written (h : Written es cs) :
    (entryLines (String.ofList cs)).map Entry.ofLine? = es.map .ok := by
  rw [entryLines, Text.lines, String.toList_ofList]
  induction h with
  | nil => rfl
  | @last e line h hline =>
    rw [Text.lineChars_of_notMem hline h.ne_nil, readLines_cons h]
    rfl
  | @more e es line cs h hline hmore ih =>
    obtain ⟨line', hline', hlines⟩ := Text.lineChars_append_lineFeed hline cs
    have h' : e.IsLine line' := by
      rcases hline' with rfl | rfl
      · exact h
      · exact h.dropReturn
    rw [hlines, readLines_cons h', ih]
    rfl

/-! ## The summary -/

variable {report : String}

theorem broken_of_read (h : (entryLines report).map Entry.ofLine? = es.map .ok) :
    broken report = es.filter (·.status = "broken") := by
  rw [broken]
  generalize entryLines report = lines at h
  induction lines generalizing es with
  | nil =>
    rw [List.map_eq_nil_iff.1 h.symm]
    rfl
  | cons line lines ih =>
    obtain ⟨e, es, rfl, hline, hlines⟩ := List.map_eq_cons_iff.1 h.symm
    have hrest := ih hlines.symm
    by_cases hstatus : e.status = "broken"
    · rw [List.filterMap_cons_some (b := e), List.filter_cons_of_pos, hrest]
      · exact decide_eq_true hstatus
      · simp [← hline, Entry.isBroken, hstatus]
    · rw [List.filterMap_cons_none, List.filter_cons_of_neg, hrest]
      · simpa using hstatus
      · simp [← hline, Entry.isBroken, hstatus]

/-- Nothing is said about lines that are all read. -/
theorem complaints_of_read (h : (entryLines report).map Entry.ofLine? = es.map .ok) (sh : Shell) :
    complaints sh report = [] := by
  rw [complaints, List.flatMap_eq_nil_iff]
  intro line hline
  have hmem : Entry.ofLine? line ∈ es.map .ok := h ▸ List.mem_map_of_mem hline
  obtain ⟨e, -, he⟩ := List.mem_map.1 hmem
  rw [← he]

/-- How a broken link is listed. -/
theorem record_eq (e : Entry) :
    e.record = "  " ++ e.filename ++ (e.lineno.elim "" fun n => ":" ++ toString n.toNat) ++ ": " ++ e.uri ++
      (if e.info = "" then "" else " (" ++ e.info ++ ")") ++ "\n" := by
  rw [Entry.record]
  cases e.lineno with
  | none => simp [String.append_assoc]
  | some n => simp [String.append_assoc]

/-! ## All entries can be written -/

theorem exists_writes (e : Entry) (f : Field) : ∃ value, e.Writes f value ∧ '\n' ∉ value := by
  cases f with
  | filename => exact exists_quoted e.filename
  | lineno =>
    refine ⟨_, rfl, ?_⟩
    cases e.lineno with
    | none => decide
    | some n =>
      intro hin
      rw [Option.elim_some, toList_toString] at hin
      exact absurd ((isDigits_toDigits n.toNat).2 _ hin) (by decide)
  | status => exact exists_quoted e.status
  | uri => exact exists_quoted e.uri
  | info => exact exists_quoted e.info

theorem spaces_nil : Spaces [] := fun _ hc => absurd hc List.not_mem_nil

theorem exists_member (e : Entry) (f : Field) : ∃ cs, Member e (some f) cs ∧ '\n' ∉ cs := by
  obtain ⟨key, hkey, hkeyLine⟩ := exists_quoted f.name
  obtain ⟨value, hvalue, hvalueLine⟩ := exists_writes e f
  exact ⟨_, .field f hkey spaces_nil spaces_nil hvalue, by simp [hkeyLine, hvalueLine]⟩

theorem exists_members (e : Entry) (f : Field) (fields : List Field) :
    ∃ cs, Members e ((f :: fields).map some) cs ∧ '\n' ∉ cs := by
  induction fields generalizing f with
  | nil =>
    obtain ⟨cs, hmember, hline⟩ := exists_member e f
    exact ⟨_, .last hmember spaces_nil, by simpa using hline⟩
  | cons g fields ih =>
    obtain ⟨cs, hmember, hline⟩ := exists_member e f
    obtain ⟨ds, hmembers, hlines⟩ := ih g
    exact ⟨_, .more hmember spaces_nil spaces_nil hmembers, by simp [hline, hlines]⟩

theorem exists_isLine (e : Entry) : ∃ line, e.IsLine line ∧ '\n' ∉ line := by
  obtain ⟨members, hmembers, hline⟩ := exists_members e .filename [.lineno, .status, .uri, .info]
  have hcomplete : e.IsComplete [.filename, .lineno, .status, .uri, .info] :=
    ⟨by decide, by decide, fun h => absurd h (by decide), by decide, by decide, fun h => absurd h (by decide)⟩
  exact ⟨_, .mk spaces_nil spaces_nil hmembers hcomplete spaces_nil, by simp [hline]⟩

theorem exists_written (es : List Entry) : ∃ cs, Written es cs := by
  induction es with
  | nil => exact ⟨[], .nil⟩
  | cons e es ih =>
    obtain ⟨line, hentry, hline⟩ := exists_isLine e
    obtain ⟨cs, hcs⟩ := ih
    exact ⟨_, .more hentry hline hcs⟩

/-- All entries can be written. Of a report with a line for each entry no line is left out: the summary is one
text, and says how many entries are broken and which, in the order of the report. -/
theorem summarize_written (es : List Entry) :
    (∃ cs, Written es cs) ∧
      ∀ (sh : Shell) (path report : String), Written es report.toList →
        summarize sh path report =
          [.print (if es.filter (·.status = "broken") = [] then "No broken links reported in " ++ path ++ ".\n"
            else "Found " ++ toString (es.filter (·.status = "broken")).length ++ " broken link(s):\n" ++
              String.join ((es.filter (·.status = "broken")).map fun e =>
                "  " ++ e.filename ++ (e.lineno.elim "" fun n => ":" ++ toString n.toNat) ++ ": " ++ e.uri ++
                  (if e.info = "" then "" else " (" ++ e.info ++ ")") ++ "\n"))] := by
  refine ⟨exists_written es, fun sh path report hwritten => ?_⟩
  have hread := map_ofLine?_of_written hwritten
  rw [String.ofList_toList] at hread
  rw [summarize, complaints_of_read hread, broken_of_read hread, summary, List.nil_append]
  simp only [List.isEmpty_iff, ← record_eq]

/-- A broken link at the largest line number, with a pair of surrogates in its address. -/
def sampleEntry : Entry := ⟨"a", some 18446744073709551615, "broken", "x𝄞/", ""⟩

/-- A line for it, with a key that is no field and a carriage return at its end. -/
def sampleLine : String :=
  "\x7b\"uri\":\"x\\uD834\\udd1e\\/\", \"code\" : [0,\x7b \x7d],\"status\":\"broken\"," ++
    "\"filename\":\"a\",\"lineno\":18446744073709551615\x7d\r"

theorem isLine_sampleLine : sampleEntry.IsLine sampleLine.toList := by
  have hpair : Quotes ['x', '𝄞', '/'] "x\\uD834\\udd1e\\/".toList := by
    have hhigh : IsHexCode 0xD834 "D834".toList :=
      ⟨by decide, .cons (Or.inr rfl) (.cons (Or.inr rfl) (.cons (Or.inl rfl) (.cons (Or.inl rfl) .nil)))⟩
    have hlow : IsHexCode 0xDD1E "dd1e".toList :=
      ⟨by decide, .cons (Or.inl rfl) (.cons (Or.inl rfl) (.cons (Or.inl rfl) (.cons (Or.inl rfl) .nil)))⟩
    have hcode : '𝄞'.toNat = 0x1D11E := by rfl
    have hslash : Quotes ['/'] "\\/".toList := .short (by simp [escapes] : ('/', '/') ∈ escapes) .nil
    have hclef : Quotes ['𝄞', '/']
        ('\\' :: 'u' :: ("D834".toList ++ '\\' :: 'u' :: ("dd1e".toList ++ "\\/".toList))) := by
      refine .pair (by rw [hcode]; decide) ?_ ?_ hslash
      · rw [hcode]
        exact hhigh
      · rw [hcode]
        exact hlow
    exact .plain (by decide) (by decide) (by decide) hclef
  have hspace : Spaces [' '] := by simp [Spaces]
  have hreturn : Spaces ['\r'] := by simp [Spaces]
  have hcode : IsJson .value "[0,\x7b \x7d]".toList := by
    have hzero : IsJson .value "0".toList :=
      .numeral (.mk (Or.inl rfl) ⟨⟨by simp, by simp⟩, Or.inl rfl⟩ (Or.inl rfl) (Or.inl rfl))
    exact .filled (.more (.array spaces_nil) hzero spaces_nil
      (.last (.array spaces_nil) (.empty .object hspace) spaces_nil))
  have huri : Member sampleEntry (some .uri) "\"uri\":\"x\\uD834\\udd1e\\/\"".toList :=
    .field .uri (quoted_of_plain rfl) spaces_nil spaces_nil ⟨_, hpair, rfl⟩
  have hother : Member sampleEntry none "\"code\" : [0,\x7b \x7d]".toList := by
    have hname : ∀ f : Field, f.name ≠ "code" := by
      intro f
      cases f <;> decide
    exact .other hname (quoted_of_plain rfl) hspace hspace hcode
  have hstatus : Member sampleEntry (some .status) "\"status\":\"broken\"".toList :=
    .field .status (quoted_of_plain rfl) spaces_nil spaces_nil (@quoted_of_plain "broken" rfl)
  have hfilename : Member sampleEntry (some .filename) "\"filename\":\"a\"".toList :=
    .field .filename (quoted_of_plain rfl) spaces_nil spaces_nil (@quoted_of_plain "a" rfl)
  have hlineno : Member sampleEntry (some .lineno) "\"lineno\":18446744073709551615".toList :=
    .field .lineno (quoted_of_plain rfl) spaces_nil spaces_nil
      (rfl : sampleEntry.Writes .lineno "18446744073709551615".toList)
  have hmembers := Members.more huri spaces_nil hspace (.more hother spaces_nil spaces_nil
    (.more hstatus spaces_nil spaces_nil (.more hfilename spaces_nil spaces_nil (.last hlineno spaces_nil))))
  exact .mk spaces_nil spaces_nil hmembers ⟨by decide, by decide, by decide, by decide, by decide,
    by decide⟩ hreturn

/-- The summary of the sample. -/
theorem summarize_sampleLine :
    summarize ⟨"/ws", [], none⟩ "report" sampleLine =
      [.print "Found 1 broken link(s):\n  a:18446744073709551615: x𝄞/\n"] := by
  have hline : '\n' ∉ sampleLine.toList := by
    have hcontains : sampleLine.toList.contains '\n' = false := by rfl
    simpa using hcontains
  exact (summarize_written [sampleEntry]).2 _ _ _ (.last isLine_sampleLine hline)

end DocRunner.LinkReport
