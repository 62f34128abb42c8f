import DocRunner.Proofs.LinkCheck.ReadBack

/-!
# What the targets of a run report

* `Target.ending? sh s target t` : how the tool of a target ends, if it is started
  (`Target.ending?_eq_some_iff`);
* `Visit.report sh s v` : what a visit reports, told by how it ends and, behind a link check, by
  the report that is left;
* `Visit.report_of_not_ended` : a target whose tool is not started, or does not end with 0, reports nothing;
* `Visit.outOf_outcome` : a visit reports exactly that;
* `runAll_reports` : so a run reports what its visits report, in order, and nothing behind the first failure.
-/

namespace DocRunner

variable {sh : Shell} {s : Settings} {t : Tree} {target : Target} {v : Visit}

/-! ## How a tool ends -/

/-- How the tool of a target ends, if it is started. -/
def Target.ending? (sh : Shell) (s : Settings) (target : Target) (t : Tree) : Option Ending :=
  match (target.prepare sh s t).result, target.command? sh s with
  | .ok (), some c =>
    match sh.find (target.prepare sh s t).tree c with
    | .ok (_, tool) => some tool.ending
    | .error _ => none
  | _, _ => none

theorem Target.ending?_eq_some_iff {ending : Ending} :
    target.ending? sh s t = some ending ↔ ToolEnds sh s target t ending := by
  constructor
  · intro h
    unfold ending? at h
    split at h
    · rename_i c hprepared hc
      split at h
      · rename_i d tool hfind
        exact ⟨c, d, tool, ⟨hprepared, hc, hfind⟩, Option.some.inj h⟩
      · cases h
    · cases h
  · rintro ⟨c, d, tool, ⟨hprepared, hc, hfind⟩, rfl⟩
    simp only [ending?, hprepared, hc, hfind]

/-! ## What a visit reports -/

/-- A text that is reported if a task succeeds. -/
def Outcome.ifOk (o : Outcome) (text : String) : String :=
  match o.result with
  | .ok () => text
  | .error _ => ""

theorem Outcome.ifOk_of_ok {o : Outcome} (h : o.result = .ok ()) (text : String) : o.ifOk text = text := by
  rw [ifOk, h]

theorem Outcome.ifOk_of_error {o : Outcome} {why : Failure} (h : o.result = .error why) (text : String) :
    o.ifOk text = "" := by
  rw [ifOk, h]

/-- What is reported about the report of a link check in a tree. -/
def Recipe.reportSummary (sh : Shell) (s : Settings) (t : Tree) : String :=
  match t.readText [] (reportPath sh s) with
  | .ok report => LinkReport.summary (reportPath sh s) (LinkReport.broken report)
  | .error _ => ""

/-- What a visit reports: a build or a spell check one line, if it succeeds; a link check one line, if its
script ends with 0, and then the summary of the report that it has left, if it has left one that can be read. -/
def Visit.report (sh : Shell) (s : Settings) (v : Visit) : String :=
  match v.target with
  | .help => usage
  | .clean => ""
  | .html => (v.outcome sh s).ifOk ("Build finished. The HTML pages are in " ++ s.htmlDir ++ ".\n")
  | .stricthtml => (v.outcome sh s).ifOk ("Build finished. The HTML pages are in " ++ s.htmlDir ++ ".\n")
  | .linkcheck =>
    if Target.linkcheck.ending? sh s v.tree = some (.exited 0) then
      "Link check complete; look for any errors in the above output or in " ++
        Path.join s.linkcheckDir "output.txt" ++ ".\n" ++
        Recipe.reportSummary sh s (v.outcome sh s).tree
    else ""
  | .spellcheck =>
    (v.outcome sh s).ifOk
      ("Spell check finished. Misspelled words are listed in " ++ Path.join s.spellingDir "output.txt" ++ ".\n")
  | .livehtml => ""

/-- A target with a tool fails if that is not started or does not end with 0. -/
theorem Target.result_of_not_ended (hc : target.command? sh s ≠ none)
    (h : target.ending? sh s t ≠ some (.exited 0)) : ∃ why, (target.run sh s t).result = .error why := by
  have hcourse := target.course sh s t
  generalize target.run sh s t = o at hcourse
  cases hcourse with
  | unprepared hp => exact ⟨_, hp⟩
  | toolless _ hnone => exact absurd hnone hc
  | unstarted => exact ⟨_, rfl⟩
  | stopped => exact ⟨_, rfl⟩
  | concluded hs hz => exact absurd (ending?_eq_some_iff.2 ⟨_, _, _, hs, hz⟩) h

/-- A target whose tool is not started, or does not end with 0, reports nothing. -/
theorem Visit.report_of_not_ended (hhelp : v.target ≠ .help)
    (h : v.target.ending? sh s v.tree ≠ some (.exited 0)) : v.report sh s = "" := by
  obtain ⟨target, t⟩ := v
  have hfails : target.command? sh s ≠ none → ∀ text, ((Visit.mk target t).outcome sh s).ifOk text = "" := by
    intro hc text
    obtain ⟨why, hwhy⟩ := Target.result_of_not_ended hc h
    exact Outcome.ifOk_of_error hwhy text
  cases target with
  | help => exact absurd rfl hhelp
  | clean => rfl
  | html => exact hfails (Option.some_ne_none _) _
  | stricthtml => exact hfails (Option.some_ne_none _) _
  | linkcheck => exact if_neg h
  | spellcheck => exact hfails (Option.some_ne_none _) _
  | livehtml => rfl

/-! ## The stages of a target -/

theorem Recipe.outOf_clean (sh : Shell) (s : Settings) (t : Tree) : outOf (clean sh s t).events = "" := by
  unfold clean
  split
  · rw [Outcome.events_after, emptyDirectory_events, List.append_nil, outOf_note]
  · exact outOf_note sh _

/-- In front of its tool only `help` reports something. -/
theorem Target.outOf_prepare (hhelp : target ≠ .help) : outOf (target.prepare sh s t).events = "" := by
  unfold prepare
  cases target with
  | help => exact absurd rfl hhelp
  | clean => exact Recipe.outOf_clean sh s t
  | stricthtml => exact Recipe.outOf_clean sh s t
  | linkcheck =>
    dsimp only
    rw [Recipe.removeReport_events]
    rfl
  | livehtml => exact outOf_note sh _
  | _ => rfl

theorem Recipe.outOf_showReport_eq (sh : Shell) (s : Settings) (t : Tree) :
    outOf (showReport sh s t).events = reportSummary sh s t := by
  unfold reportSummary
  cases hr : t.resolve [] (reportPath sh s) with
  | error why =>
    have hread : t.readText [] (reportPath sh s) = .error why := by rw [Tree.readText, hr]
    rw [showReport, Tree.isThere_of_error hr, if_neg Bool.false_ne_true, hread]
    rfl
  | ok place =>
    cases hread : t.readText [] (reportPath sh s) with
    | ok report => exact outOf_showReport hr hread
    | error why =>
      rw [showReport, if_pos (Tree.isThere_of_ok hr), hread]
      rfl

/-- Behind a tool that has ended with 0, what a target reports is said by its conclusion. -/
theorem Visit.report_of_concluded {c : Command} {d : Location} {tool : Tool}
    (hs : Target.Starts sh s v.target v.tree c d tool) (hz : tool.ending = .exited 0) {left : Tree}
    (ho : ∃ events, v.outcome sh s = (v.target.conclude sh s left).after events) :
    v.report sh s = outOf (v.target.conclude sh s left).events := by
  obtain ⟨target, t⟩ := v
  obtain ⟨events, ho⟩ := ho
  have hok : (target.conclude sh s left).result = .ok () → ∀ text,
      ((Visit.mk target t).outcome sh s).ifOk text = text := by
    intro hr text
    rw [ho]
    exact Outcome.ifOk_of_ok hr text
  cases target with
  | help => exact absurd hs (Target.not_starts_of_no_command rfl)
  | clean => exact absurd hs (Target.not_starts_of_no_command rfl)
  | html => exact (hok rfl _).trans (outOf_print _).symm
  | stricthtml => exact (hok rfl _).trans (outOf_print _).symm
  | spellcheck => exact (hok rfl _).trans (outOf_print _).symm
  | livehtml => rfl
  | linkcheck =>
    have hended : Target.linkcheck.ending? sh s t = some (.exited 0) :=
      Target.ending?_eq_some_iff.2 ⟨c, d, tool, hs, hz⟩
    have hleft : ((Visit.mk .linkcheck t).outcome sh s).tree = left := by
      rw [ho, Outcome.tree_after, Target.conclude_tree]
    have htrailer : outOf (Target.linkcheck.conclude sh s left).events =
        Recipe.linkcheckTrailer s ++ outOf (Recipe.showReport sh s left).events := by
      rw [Target.conclude, Outcome.events_after, outOf_append, outOf_print]
    rw [Visit.report]
    dsimp only
    rw [if_pos hended, hleft, htrailer, Recipe.outOf_showReport_eq]
    rfl

/-- A visit reports what its target reports, by how that ends. -/
theorem Visit.outOf_outcome (sh : Shell) (s : Settings) (v : Visit) :
    outOf (v.outcome sh s).events = v.report sh s := by
  have hcourse := v.target.course sh s v.tree
  have hnothing : v.target ≠ .help →
      (∀ c d tool, Target.Starts sh s v.target v.tree c d tool → tool.ending ≠ .exited 0) →
      v.report sh s = "" := by
    intro hhelp hnot
    refine report_of_not_ended hhelp fun hended => ?_
    obtain ⟨c, d, tool, hs, hz⟩ := Target.ending?_eq_some_iff.1 hended
    exact hnot c d tool hs hz
  have htool : ∀ {c : Command}, v.target.command? sh s = some c → v.target ≠ .help := by
    intro c hc hhelp
    rw [hhelp] at hc
    cases hc
  generalize ho : v.target.run sh s v.tree = o at hcourse
  have hout : v.outcome sh s = o := ho
  rw [hout]
  cases hcourse with
  | unprepared hp =>
    have hhelp : v.target ≠ .help := by
      intro hhelp
      rw [hhelp] at hp
      cases hp
    rw [Target.outOf_prepare hhelp, hnothing hhelp fun _ _ _ hs => absurd hs (Target.not_starts_of_error hp)]
  | toolless hp hc =>
    obtain ⟨target, t⟩ := v
    cases target with
    | help => exact outOf_print usage
    | clean => exact Recipe.outOf_clean sh s t
    | _ => cases hc
  | unstarted _ hc hfind =>
    rw [outOf_append, Target.outOf_prepare (htool hc), outOf_echo,
      hnothing (htool hc) fun _ _ _ hs => absurd hs (Target.not_starts_of_not_found hc hfind)]
    rfl
  | @stopped c d tool why hs hr =>
    have hnot : ∀ c' d' tool', Target.Starts sh s v.target v.tree c' d' tool' → tool'.ending ≠ .exited 0 := by
      intro c' d' tool' hs' hz
      obtain ⟨rfl, -, rfl⟩ := hs.unique hs'
      rw [Ending.result_eq_ok.2 hz] at hr
      cases hr
    rw [outOf_append, outOf_append, Target.outOf_prepare (htool hs.command), outOf_echo, Tool.outOf_events,
      hnothing (htool hs.command) hnot]
    rfl
  | @concluded c d tool hs hz =>
    rw [report_of_concluded hs hz ⟨_, hout⟩, Outcome.events_after, outOf_append, outOf_append, outOf_append,
      Target.outOf_prepare (htool hs.command), outOf_echo, Tool.outOf_events]
    simp only [String.empty_append]

/-- A run reports what its visits report, in order: no target behind the first that fails, and none whose tool
could not be started, was killed or ended with another code than 0. -/
theorem runAll_reports (sh : Shell) (s : Settings) (targets : List Target) (t : Tree) :
    ∃ visits, Visits sh s targets t visits ∧
      outOf (runAll sh s targets t).events = String.join (visits.map (Visit.report sh s)) ∧
      ∀ v ∈ visits, v.target ≠ .help → v.target.ending? sh s v.tree ≠ some (.exited 0) →
        v.report sh s = "" := by
  obtain ⟨visits, hvisits⟩ := Visits.exist sh s targets t
  refine ⟨visits, hvisits, ?_, fun v _ => Visit.report_of_not_ended⟩
  rw [hvisits.events]
  clear hvisits
  induction visits with
  | nil => rfl
  | cons v visits ih =>
    rw [List.flatMap_cons, outOf_append, ih, List.map_cons, Visit.outOf_outcome]
    exact (String.join_cons).symm

end DocRunner
