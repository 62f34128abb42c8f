import DocRunner.Proofs.Run.Causes
import DocRunner.Proofs.Run.Visits
import DocRunner.Proofs.Run.WorkingDirectory

/-!
# The calls of a run

* `Target.Course.calls` : a target calls its tool once if it starts it, and calls nothing otherwise;
* `Visit.CallsTool sh s v` : whether a visit calls a tool, told by how it ends; `Visit.callsTool_iff` says that
  it does so exactly if the tool is started;
* `Call.Fits sh s v call` : the directory, the arguments and the variables that a call of a visit has to have;
* `runAll_calls` : the calls of a run, visit by visit.
-/

namespace DocRunner

/-! ## Variables of one command -/

namespace Variables

theorem get?_set_self (vars : Variables) (name value : String) : (vars.set name value).get? name = some value :=
  List.lookup_cons_self

theorem get?_set_of_ne (vars : Variables) {name other : String} (value : String) (h : other ≠ name) :
    (vars.set name value).get? other = vars.get? other := by
  rw [get?, get?, set, List.lookup_cons, beq_false_of_ne h]
  have hkeep := Tree.lookup_filter_fst (fun key => decide (key ≠ name)) vars other
  rwa [if_pos (decide_eq_true h)] at hkeep

end Variables

namespace Shell

/-- A command without variables of its own has those of the shell. -/
theorem varsFor_of_nil (sh : Shell) {c : Command} (h : c.vars = []) : sh.varsFor c = sh.vars := by
  rw [varsFor, h]
  rfl

theorem get?_varsFor_linkcheck (sh : Shell) (s : Settings) :
    (sh.varsFor (s.linkcheckCommand sh)).get? "BUILDDIR" = some s.buildDir ∧
      (sh.varsFor (s.linkcheckCommand sh)).get? "SOURCEDIR" = some s.sourceDir ∧
      ∀ name, name ≠ "BUILDDIR" → name ≠ "SOURCEDIR" →
        (sh.varsFor (s.linkcheckCommand sh)).get? name = sh.vars.get? name := by
  have hvars : sh.varsFor (s.linkcheckCommand sh) =
      (sh.vars.set "BUILDDIR" s.buildDir).set "SOURCEDIR" s.sourceDir := rfl
  rw [hvars]
  refine ⟨?_, Variables.get?_set_self _ _ _, fun name hb hs => ?_⟩
  · rw [Variables.get?_set_of_ne _ _ (by decide), Variables.get?_set_self]
  · rw [Variables.get?_set_of_ne _ _ hs, Variables.get?_set_of_ne _ _ hb]

end Shell

/-! ## What calls nothing -/

section Quiet

variable (sh : Shell) (s : Settings)

@[simp] theorem callsOf_note (line : String) : callsOf (sh.note line) = [] := by
  rw [Shell.note]
  split <;> rfl

@[simp] theorem callsOf_echo (command : String) : callsOf (sh.echo command) = [] := by
  rw [Shell.echo]
  split <;> rfl

theorem LinkReport.callsOf_summarize (path report : String) : callsOf (summarize sh path report) = [] := by
  have hlines : callsOf (complaints sh report) = [] := by
    rw [complaints, callsOf, List.filterMap_flatMap, List.flatMap_eq_nil_iff]
    intro line _
    cases Entry.ofLine? line with
    | ok entry => rfl
    | error why => exact callsOf_note sh _
  rw [summarize, callsOf_append, hlines]
  rfl

namespace Recipe

theorem removeEntries_events (dir : String) (names : List String) (t : Tree) :
    (removeEntries dir names t).events = [] := by
  induction names generalizing t with
  | nil => rfl
  | cons name names ih =>
    cases h : t.removePath [] (Path.join dir name) with
    | error why =>
      rw [removeEntries_of_error h]
      rfl
    | ok t' => rw [removeEntries_of_ok h, ih]

theorem emptyDirectory_events (dir : String) (t : Tree) : (emptyDirectory dir t).events = [] := by
  unfold emptyDirectory
  split
  · rfl
  · exact removeEntries_events _ _ _

theorem callsOf_clean (t : Tree) : callsOf (clean sh s t).events = [] := by
  unfold clean
  split
  · rw [Outcome.events_after, emptyDirectory_events, List.append_nil, callsOf_note]
  · exact callsOf_note sh _

theorem removeReport_events (t : Tree) : (removeReport sh s t).events = [] := by
  unfold removeReport
  split <;> rfl

theorem callsOf_removeReport (t : Tree) : callsOf (removeReport sh s t).events = [] := by
  rw [removeReport_events]
  rfl

theorem callsOf_showReport (t : Tree) : callsOf (showReport sh s t).events = [] := by
  unfold showReport
  split
  · split
    · rfl
    · exact LinkReport.callsOf_summarize sh _ _
  · rfl

end Recipe

theorem Target.callsOf_prepare (target : Target) (t : Tree) : callsOf (target.prepare sh s t).events = [] := by
  unfold prepare
  cases target with
  | clean => exact Recipe.callsOf_clean sh s t
  | stricthtml => exact Recipe.callsOf_clean sh s t
  | linkcheck => exact Recipe.callsOf_removeReport sh s t
  | livehtml => simp only [Outcome.done, callsOf_note]
  | _ => rfl

theorem Target.callsOf_conclude (target : Target) (t : Tree) : callsOf (target.conclude sh s t).events = [] := by
  unfold conclude
  cases target with
  | linkcheck =>
    rw [Outcome.events_after, callsOf_append, Recipe.callsOf_showReport]
    rfl
  | _ => rfl

end Quiet

/-! ## The call of a target -/

theorem Tool.callsOf_events (tool : Tool) (d : Location) (vars : Variables) (arguments : List String) :
    callsOf (tool.events d vars arguments) = [⟨tool.name, d, vars, arguments⟩] := rfl

namespace Target

variable {sh : Shell} {s : Settings} {target : Target} {t : Tree} {o : Outcome}

/-- The arguments of a target's tool, from the settings alone. -/
def arguments (s : Settings) : Target → List String
  | help => []
  | clean => []
  | html => (s.htmlCommand false).arguments
  | stricthtml => (s.htmlCommand true).arguments
  | linkcheck => []
  | spellcheck => s.spellCommand.arguments
  | livehtml => s.liveCommand.arguments

theorem command?_arguments {c : Command} (h : target.command? sh s = some c) :
    c.arguments = target.arguments s := by
  cases target with
  | help => cases h
  | clean => cases h
  | _ =>
    cases h
    rfl

/-- Only a link check sets variables for its tool. -/
theorem command?_vars {c : Command} (h : target.command? sh s = some c) (hne : target ≠ .linkcheck) :
    c.vars = [] := by
  cases target with
  | help => cases h
  | clean => cases h
  | linkcheck => exact absurd rfl hne
  | _ =>
    cases h
    rfl

/-- A target calls its tool once if it starts it, and calls nothing otherwise. -/
theorem Course.calls (h : Course sh s target t o) :
    (callsOf o.events = [] ∧ ∀ c d tool, ¬ Starts sh s target t c d tool) ∨
      ∃ c d tool, Starts sh s target t c d tool ∧
        callsOf o.events = [⟨tool.name, d, sh.varsFor c, target.arguments s⟩] := by
  cases h with
  | unprepared hp => exact Or.inl ⟨callsOf_prepare sh s target t, fun _ _ _ => not_starts_of_error hp⟩
  | toolless _ hc => exact Or.inl ⟨callsOf_prepare sh s target t, fun _ _ _ => not_starts_of_no_command hc⟩
  | unstarted _ hc hfind =>
    refine Or.inl ⟨?_, fun _ _ _ => not_starts_of_not_found hc hfind⟩
    rw [callsOf_append, callsOf_prepare, callsOf_echo, List.append_nil]
  | @stopped c d tool _ hs _ =>
    refine Or.inr ⟨c, d, tool, hs, ?_⟩
    rw [callsOf_append, callsOf_append, callsOf_prepare, callsOf_echo, Tool.callsOf_events,
      command?_arguments hs.command]
    rfl
  | @concluded c d tool hs _ =>
    refine Or.inr ⟨c, d, tool, hs, ?_⟩
    rw [Outcome.events_after, callsOf_append, callsOf_append, callsOf_append, callsOf_prepare, callsOf_echo,
      callsOf_conclude, Tool.callsOf_events, command?_arguments hs.command]
    rfl

/-- A target with a tool, if it is no link check, starts it exactly if it succeeds or fails as a step does. -/
theorem Course.started_iff (h : Course sh s target t o) (hc : target.command? sh s ≠ none)
    (hne : target ≠ .linkcheck) :
    (o.result = .ok () ∨ ∃ command code, o.result = .error (.stepFailed command code)) ↔
      ∃ c d tool, Starts sh s target t c d tool := by
  cases h with
  | unprepared hp =>
    -- cleaning has causes of its own to fail, none of which is that of a step
    refine iff_of_false ?_ fun ⟨_, _, _, hs⟩ => not_starts_of_error hp hs
    rw [hp]
    rintro (hok | ⟨command, code, hstep⟩)
    · cases hok
    · cases hstep
      exact prepare_error hp trivial
  | toolless _ hnone => exact absurd hnone hc
  | unstarted _ hsome hfind =>
    refine iff_of_false ?_ fun ⟨_, _, _, hs⟩ => not_starts_of_not_found hsome hfind hs
    rintro (hok | ⟨command, code, hstep⟩)
    · cases hok
    · cases hstep
  | @stopped c d tool why hs hr =>
    refine iff_of_true (Or.inr ?_) ⟨c, d, tool, hs⟩
    rcases Ending.result_eq_error.1 hr with ⟨code, -, -, rfl⟩ | ⟨-, rfl⟩
    · exact ⟨_, _, rfl⟩
    · exact ⟨_, _, rfl⟩
  | @concluded c d tool hs _ =>
    refine iff_of_true (Or.inl ?_) ⟨c, d, tool, hs⟩
    rw [Outcome.result_after]
    cases hr : (target.conclude sh s _).result with
    | ok _ => rfl
    | error why => exact absurd (conclude_error hr).1 hne

/-- The script of a link check is started: the report of an earlier check could be removed,
and the script be found. -/
def ScriptStarts (sh : Shell) (s : Settings) (t : Tree) : Prop :=
  ∃ t' d tool, t.removePath [] (Recipe.reportPath sh s) = .ok t' ∧
    sh.find t' (s.linkcheckCommand sh) = .ok (d, tool)

theorem scriptStarts_iff : ScriptStarts sh s t ↔ ∃ c d tool, Starts sh s .linkcheck t c d tool := by
  constructor
  · rintro ⟨t', d, tool, hrm, hfind⟩
    have hprep : Target.linkcheck.prepare sh s t = .done [] t' := by
      unfold prepare Recipe.removeReport
      rw [hrm]
    exact ⟨_, d, tool, by rw [hprep]; rfl, rfl, by rw [hprep]; exact hfind⟩
  · rintro ⟨c, d, tool, hp, hc, hfind⟩
    cases hc
    unfold prepare Recipe.removeReport at hp hfind
    cases hrm : t.removePath [] (Recipe.reportPath sh s) with
    | error why =>
      rw [hrm] at hp
      cases hp
    | ok t' =>
      rw [hrm] at hfind
      exact ⟨t', d, tool, hrm, hfind⟩

end Target

/-! ## The calls of a run -/

section Visit

variable (sh : Shell) (s : Settings) (v : Visit)

/-- Whether a visit calls a tool, told by how it ends. -/
def Visit.CallsTool : Prop :=
  match v.target with
  | .help => False
  | .clean => False
  | .linkcheck => Target.ScriptStarts sh s v.tree
  | _ => (v.outcome sh s).result = .ok () ∨
      ∃ command code, (v.outcome sh s).result = .error (.stepFailed command code)

/-- What a call of a visit has to be like. -/
structure Call.Fits (call : Call) : Prop where
  directory : v.tree.resolveDirectory [] sh.directory = .ok call.directory
  arguments : call.arguments = v.target.arguments s
  /-- The tool of a link check learns the directories by two variables. -/
  linkcheck : v.target = .linkcheck →
    call.vars.get? "BUILDDIR" = some s.buildDir ∧ call.vars.get? "SOURCEDIR" = some s.sourceDir ∧
      ∀ name, name ≠ "BUILDDIR" → name ≠ "SOURCEDIR" → call.vars.get? name = sh.vars.get? name
  /-- Any other tool sees the variables of the shell. -/
  other : v.target ≠ .linkcheck → call.vars = sh.vars

end Visit

section Run

variable {sh : Shell} {s : Settings} {v : Visit}

theorem Visit.callsTool_iff : v.CallsTool sh s ↔ ∃ c d tool, Target.Starts sh s v.target v.tree c d tool := by
  obtain ⟨target, t⟩ := v
  have hcourse := target.course sh s t
  cases target with
  | help => exact iff_of_false id fun ⟨_, _, _, hs⟩ => Target.not_starts_of_no_command rfl hs
  | clean => exact iff_of_false id fun ⟨_, _, _, hs⟩ => Target.not_starts_of_no_command rfl hs
  | linkcheck => exact Target.scriptStarts_iff
  | html => exact hcourse.started_iff (Option.some_ne_none _) (by decide)
  | stricthtml => exact hcourse.started_iff (Option.some_ne_none _) (by decide)
  | spellcheck => exact hcourse.started_iff (Option.some_ne_none _) (by decide)
  | livehtml => exact hcourse.started_iff (Option.some_ne_none _) (by decide)

theorem Target.Starts.fits {c : Command} {d : Location} {tool : Tool}
    (h : Target.Starts sh s v.target v.tree c d tool) :
    Call.Fits sh s v ⟨tool.name, d, sh.varsFor c, v.target.arguments s⟩ where
  directory :=
    (Target.prepare_shrinks sh s v.target v.tree).leadsAsBefore sh.directory d
      (Shell.resolveDirectory_of_find h.found)
  arguments := rfl
  linkcheck hlink := by
    have hc := h.command
    rw [hlink] at hc
    cases hc
    exact Shell.get?_varsFor_linkcheck sh s
  other hne := sh.varsFor_of_nil (Target.command?_vars h.command hne)

/-- The calls of a visit: one if it calls a tool, and that one fits; none otherwise. -/
theorem Visit.calls (sh : Shell) (s : Settings) (v : Visit) :
    (v.CallsTool sh s → ∃ call, callsOf (v.outcome sh s).events = [call]) ∧
      (¬ v.CallsTool sh s → callsOf (v.outcome sh s).events = []) ∧
      ∀ call ∈ callsOf (v.outcome sh s).events, call.Fits sh s v := by
  rw [callsTool_iff]
  rcases (v.target.course sh s v.tree).calls with ⟨hnone, hnot⟩ | ⟨c, d, tool, hs, hone⟩
  · have hnil : callsOf (v.outcome sh s).events = [] := hnone
    rw [hnil]
    exact ⟨fun ⟨c, d, tool, hs⟩ => absurd hs (hnot c d tool), fun _ => rfl, fun _ hcall => by cases hcall⟩
  · have hcall : callsOf (v.outcome sh s).events = [⟨tool.name, d, sh.varsFor c, v.target.arguments s⟩] := hone
    rw [hcall, List.forall_mem_singleton]
    exact ⟨fun _ => ⟨_, rfl⟩, fun hno => absurd ⟨c, d, tool, hs⟩ hno, hs.fits⟩

/-- The calls of a run are those of its visits, in order. All are made in the directory that the working
directory leads to at the start of the run. -/
theorem runAll_calls (sh : Shell) (s : Settings) (targets : List Target) (t : Tree) :
    ∃ visits, Visits sh s targets t visits ∧
      callsOf (runAll sh s targets t).events = visits.flatMap (fun v => callsOf (v.outcome sh s).events) ∧
      ∀ v ∈ visits,
        (v.CallsTool sh s → ∃ call, callsOf (v.outcome sh s).events = [call]) ∧
        (¬ v.CallsTool sh s → callsOf (v.outcome sh s).events = []) ∧
        ∀ call ∈ callsOf (v.outcome sh s).events,
          call.Fits sh s v ∧ t.resolveDirectory [] sh.directory = .ok call.directory := by
  obtain ⟨visits, hvisits⟩ := Visits.exist sh s targets t
  refine ⟨visits, hvisits, ?_, fun v hv => ?_⟩
  · rw [hvisits.events, callsOf, List.filterMap_flatMap]
    rfl
  · -- the directory of the call was resolved in the tree of the visit, and since no target moves
    -- it, it is that of the start
    obtain ⟨hone, hnone, hfits⟩ := v.calls sh s
    refine ⟨hone, hnone, fun call hcall => ⟨hfits call hcall, ?_⟩⟩
    have hback := hvisits.related (Tree.LeadsAsBefore.refl [] sh.directory) Tree.LeadsAsBefore.trans
      (fun target t => target.run_leadsAsBefore sh s t) hv
    exact hback call.directory (hfits call hcall).directory

end Run

end DocRunner
