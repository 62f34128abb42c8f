import DocRunner.Text.Lines
import Mathlib.Data.List.Basic
import Mathlib.Data.List.Induction

/-!
# The lines of a text

* `LineEnded cs` : `cs` is empty or ends with a line feed, so that what is put behind it starts a line;
* `lineChars_append` : the lines of two texts are those of the first and then those of the second, if the
  first one is line ended;
* `lineChars_row`, `lineChars_row_return`, `lineChars_of_notMem` : a row without line feeds is
  a line, however it ends;
* `lineChars_lastEnd` : the end of the last line adds nothing but, behind a line that has ended, an empty line.
-/

namespace DocRunner.Text

/-- Empty, or with a line feed as the last character. -/
def LineEnded (cs : List Char) : Prop := ∀ c ∈ cs.getLast?, c = '\n'

variable {c : Char} {cs ds row : List Char}

theorem lineEnded_nil : LineEnded [] := fun _ hc => nomatch hc

theorem lineEnded_concat (cs : List Char) : LineEnded (cs ++ ['\n']) := by
  intro c hc
  rw [List.getLast?_concat] at hc
  exact (Option.some.inj hc).symm

/-! ## Rows without line feeds -/

theorem lineChars_cons (hc : c ≠ '\n') (hnext : c = '\r' → cs.head? ≠ some '\n') :
    lineChars (c :: cs) = consFirst c (lineChars cs) := by
  rw [lineChars]
  · exact hc
  · rintro rest hreturn rfl
    exact hnext hreturn rfl

theorem lineChars_ne_nil (h : cs ≠ []) : lineChars cs ≠ [] := by
  cases cs with
  | nil => exact absurd rfl h
  | cons c cs =>
    unfold lineChars
    split
    · exact absurd ‹_› h
    · exact List.cons_ne_nil _ _
    · exact List.cons_ne_nil _ _
    · cases lineChars _ <;> exact List.cons_ne_nil _ _

/-- A row without line feeds is one line. -/
theorem lineChars_of_notMem (hrow : '\n' ∉ row) (hne : row ≠ []) : lineChars row = [row] := by
  induction row with
  | nil => exact absurd rfl hne
  | cons c row ih =>
    obtain ⟨hc, hrow⟩ := List.ne_and_not_mem_of_not_mem_cons hrow
    rw [lineChars_cons hc.symm fun _ hhead => hrow (List.mem_of_mem_head? hhead)]
    cases row with
    | nil => rfl
    | cons d row => rw [ih hrow (List.cons_ne_nil d row), consFirst]

/-- A row that ends with a line feed is a line, unless a carriage return stands in front of that. -/
theorem lineChars_row (hrow : '\n' ∉ row) (hend : row.getLast? ≠ some '\r') (ds : List Char) :
    lineChars (row ++ '\n' :: ds) = row :: lineChars ds := by
  induction row with
  | nil => rfl
  | cons c row ih =>
    obtain ⟨hc, hrow⟩ := List.ne_and_not_mem_of_not_mem_cons hrow
    cases row with
    | nil =>
      rw [List.singleton_append, lineChars_cons hc.symm]
      · rfl
      · rintro rfl
        exact absurd rfl hend
    | cons d row =>
      rw [List.getLast?_cons_cons] at hend
      rw [List.cons_append, lineChars_cons hc.symm, ih hrow hend, consFirst]
      rintro - hhead
      exact hrow (List.mem_cons.2 (Or.inl (Option.some.inj hhead).symm))

/-- A row that ends with a carriage return and a line feed is a line. -/
theorem lineChars_row_return (hrow : '\n' ∉ row) (ds : List Char) :
    lineChars (row ++ '\r' :: '\n' :: ds) = row :: lineChars ds := by
  induction row with
  | nil => rfl
  | cons c row ih =>
    obtain ⟨hc, hrow⟩ := List.ne_and_not_mem_of_not_mem_cons hrow
    rw [List.cons_append, lineChars_cons hc.symm, ih hrow, consFirst]
    rintro - hhead
    cases row with
    | nil => exact absurd (Option.some.inj hhead) (by decide)
    | cons d row => exact hrow (List.mem_cons.2 (Or.inl (Option.some.inj hhead).symm))

/-- A line ends in front of its line feed, and a carriage return there does not belong to it. -/
theorem lineChars_append_lineFeed (hrow : '\n' ∉ row) (ds : List Char) :
    ∃ line, (row = line ∨ row = line ++ ['\r']) ∧ lineChars (row ++ '\n' :: ds) = line :: lineChars ds := by
  by_cases hend : row.getLast? = some '\r'
  · obtain ⟨line, rfl⟩ := List.getLast?_eq_some_iff.1 hend
    refine ⟨line, Or.inr rfl, ?_⟩
    rw [List.append_assoc]
    exact lineChars_row_return (fun h => hrow (List.mem_append_left _ h)) ds
  · exact ⟨row, Or.inl rfl, lineChars_row hrow hend ds⟩

/-! ## Texts behind texts -/

theorem LineEnded.tail (h : LineEnded (c :: cs)) (hc : c ≠ '\n') : LineEnded cs ∧ cs ≠ [] := by
  cases cs with
  | nil => exact absurd (h c rfl) hc
  | cons d cs =>
    rw [LineEnded, List.getLast?_cons_cons] at h
    exact ⟨h, List.cons_ne_nil d cs⟩

theorem LineEnded.of_append (cs : List Char) (h : LineEnded (cs ++ ds)) (hne : ds ≠ []) : LineEnded ds := by
  rw [LineEnded, List.getLast?_append_of_ne_nil cs hne] at h
  exact h

/-- Behind a text that is line ended a line starts. -/
theorem lineChars_append (h : LineEnded cs) (ds : List Char) :
    lineChars (cs ++ ds) = lineChars cs ++ lineChars ds := by
  induction cs using lineChars.induct with
  | case1 => rfl
  | case2 cs ih =>
    have htail : LineEnded cs := by
      rcases eq_or_ne cs [] with rfl | hne
      · exact lineEnded_nil
      · exact LineEnded.of_append ['\n'] h hne
    show [] :: lineChars (cs ++ ds) = [] :: lineChars cs ++ lineChars ds
    rw [ih htail, List.cons_append]
  | case3 cs ih =>
    have htail : LineEnded cs := by
      rcases eq_or_ne cs [] with rfl | hne
      · exact lineEnded_nil
      · exact LineEnded.of_append ['\r', '\n'] h hne
    show [] :: lineChars (cs ++ ds) = [] :: lineChars cs ++ lineChars ds
    rw [ih htail, List.cons_append]
  | case4 c cs hc hreturn ih =>
    obtain ⟨htail, hne⟩ := h.tail hc
    obtain ⟨d, rest, rfl⟩ := List.exists_cons_of_ne_nil hne
    have hnext : c = '\r' → d ≠ '\n' := by
      rintro hcr rfl
      exact hreturn rest hcr rfl
    rw [List.cons_append, lineChars_cons hc fun hcr => by simpa using hnext hcr, ih htail,
      lineChars_cons hc fun hcr => by simpa using hnext hcr]
    obtain ⟨line, lines, hlines⟩ := List.exists_cons_of_ne_nil (lineChars_ne_nil (List.cons_ne_nil d rest))
    rw [hlines]
    rfl

/-- Any text is line ended, but for a row without line feeds. -/
theorem exists_lineEnded_append (cs : List Char) : ∃ ds row, cs = ds ++ row ∧ LineEnded ds ∧ '\n' ∉ row := by
  induction cs using List.reverseRecOn with
  | nil => exact ⟨[], [], rfl, lineEnded_nil, List.not_mem_nil⟩
  | append_singleton cs c ih =>
    by_cases hc : c = '\n'
    · subst hc
      exact ⟨cs ++ ['\n'], [], (List.append_nil _).symm, lineEnded_concat cs, List.not_mem_nil⟩
    · obtain ⟨ds, row, rfl, hds, hrow⟩ := ih
      refine ⟨ds, row ++ [c], by simp, hds, ?_⟩
      simpa [hrow] using fun h => hc h.symm

/-! ## Ends of lines -/

/-- Whether a line ends with a line feed or with a carriage return and a line feed, the lines are the same. -/
theorem lineChars_return (h : cs.getLast? ≠ some '\r') (ds : List Char) :
    lineChars (cs ++ '\r' :: '\n' :: ds) = lineChars (cs ++ '\n' :: ds) := by
  obtain ⟨before, row, rfl, hbefore, hrow⟩ := exists_lineEnded_append cs
  have hend : row.getLast? ≠ some '\r' := by
    intro hreturn
    obtain ⟨line, rfl⟩ := List.getLast?_eq_some_iff.1 hreturn
    exact h (by simp)
  rw [List.append_assoc, List.append_assoc, lineChars_append hbefore, lineChars_append hbefore,
    lineChars_row_return hrow, lineChars_row hrow hend]

/-- The end of the last line adds nothing, or an empty line behind a line that has ended. -/
theorem lineChars_lastEnd (h : cs.getLast? ≠ some '\r') :
    lineChars (cs ++ ['\n']) = lineChars cs ∨ lineChars (cs ++ ['\n']) = lineChars cs ++ [[]] := by
  obtain ⟨before, row, rfl, hbefore, hrow⟩ := exists_lineEnded_append cs
  rcases eq_or_ne row [] with rfl | hne
  · rw [List.append_nil, lineChars_append hbefore]
    exact Or.inr rfl
  · have hend : row.getLast? ≠ some '\r' := by rwa [List.getLast?_append_of_ne_nil before hne] at h
    rw [List.append_assoc, lineChars_append hbefore, lineChars_append hbefore, lineChars_row hrow hend,
      lineChars_of_notMem hrow hne]
    exact Or.inl rfl

/-- The same of an end with a carriage return, whatever stands in front of it. -/
theorem lineChars_lastEnd_return (cs : List Char) :
    lineChars (cs ++ ['\r', '\n']) = lineChars cs ∨ lineChars (cs ++ ['\r', '\n']) = lineChars cs ++ [[]] := by
  obtain ⟨before, row, rfl, hbefore, hrow⟩ := exists_lineEnded_append cs
  rcases eq_or_ne row [] with rfl | hne
  · rw [List.append_nil, lineChars_append hbefore]
    exact Or.inr rfl
  · rw [List.append_assoc, lineChars_append hbefore, lineChars_append hbefore, lineChars_row_return hrow,
      lineChars_of_notMem hrow hne]
    exact Or.inl rfl

end DocRunner.Text
