import DocRunner.Proofs.Clean.Sweep
import DocRunner.Proofs.Run.Course

/-!
# Why a target fails

* `Target.ToolEnds sh s target t ending` : the tool of a target is started in the tree `t`, and it ends so;
* `Target.prepare_error`, `Target.conclude_error` : what comes before and behind the tool
  does not fail like a step;
* `Target.Course.error` : a target fails with the exit code of its tool, because its tool was killed, or for a
  cause that is not its tool's ending;
* `Target.exitCode_of_exited`, `Target.exitCode_of_not_exited` : the exit code of a failure, told by the tool.
-/

namespace DocRunner

namespace Failure

/-- A step ended with another exit code than 0, or was killed. -/
def IsOfStep : Failure → Prop
  | stepFailed _ _ => True
  | _ => False

theorem exitCode_of_not_isOfStep {why : Failure} (h : ¬ why.IsOfStep) : why.exitCode = 1 := by
  cases why with
  | stepFailed command code => exact absurd trivial h
  | _ => rfl

end Failure

namespace Recipe

variable {sh : Shell} {s : Settings} {t : Tree} {why : Failure}

theorem removeEntries_error {dir : String} {names : List String}
    (h : (removeEntries dir names t).result = .error why) : ¬ why.IsOfStep := by
  induction names generalizing t with
  | nil => cases h
  | cons name names ih =>
    cases hrm : t.removePath [] (Path.join dir name) with
    | error reason =>
      rw [removeEntries_of_error hrm] at h
      cases h
      exact id
    | ok t' =>
      rw [removeEntries_of_ok hrm] at h
      exact ih h

theorem emptyDirectory_error {dir : String} (h : (emptyDirectory dir t).result = .error why) :
    ¬ why.IsOfStep := by
  unfold emptyDirectory at h
  split at h
  · cases h
    exact id
  · exact removeEntries_error h

theorem clean_error (h : (clean sh s t).result = .error why) : ¬ why.IsOfStep := by
  unfold clean at h
  split at h
  · exact emptyDirectory_error h
  · cases h

theorem removeReport_error (h : (removeReport sh s t).result = .error why) : ¬ why.IsOfStep := by
  unfold removeReport at h
  split at h
  · cases h
    exact id
  · cases h

theorem showReport_error (h : (showReport sh s t).result = .error why) :
    ∃ reason, why = .unreadableFile reason := by
  unfold showReport at h
  split at h
  · split at h
    · cases h
      exact ⟨_, rfl⟩
    · cases h
  · cases h

end Recipe

namespace Target

variable {sh : Shell} {s : Settings} {target : Target} {t : Tree} {why : Failure}

theorem prepare_error (h : (target.prepare sh s t).result = .error why) : ¬ why.IsOfStep := by
  unfold prepare at h
  cases target with
  | clean => exact Recipe.clean_error h
  | stricthtml => exact Recipe.clean_error h
  | linkcheck => exact Recipe.removeReport_error h
  | _ => cases h

/-- Only a link check can still fail when its tool has succeeded: at its report. -/
theorem conclude_error (h : (target.conclude sh s t).result = .error why) :
    target = .linkcheck ∧ ∃ reason, why = .unreadableFile reason := by
  cases target with
  | linkcheck =>
    rw [conclude, Outcome.result_after] at h
    exact ⟨rfl, Recipe.showReport_error h⟩
  | _ => cases h

/-- The tool of a target is started, and it ends so. -/
def ToolEnds (sh : Shell) (s : Settings) (target : Target) (t : Tree) (ending : Ending) : Prop :=
  ∃ c d tool, Starts sh s target t c d tool ∧ tool.ending = ending

theorem ToolEnds.unique {ending ending' : Ending} (h : ToolEnds sh s target t ending)
    (h' : ToolEnds sh s target t ending') : ending = ending' := by
  obtain ⟨c, d, tool, hs, rfl⟩ := h
  obtain ⟨c', d', tool', hs', rfl⟩ := h'
  obtain ⟨-, -, rfl⟩ := hs.unique hs'
  rfl

/-- The causes for which a target fails: its tool's exit code, a signal, or something else
than its tool's ending. -/
theorem Course.error {o : Outcome} (h : Course sh s target t o) (hfail : o.result = .error why) :
    (∃ command code, code ≠ 0 ∧ ToolEnds sh s target t (.exited code) ∧
      why = .stepFailed command (some code)) ∨
      (∃ command, ToolEnds sh s target t .killed ∧ why = .stepFailed command none) ∨
      ¬ why.IsOfStep ∧ ∀ ending, ToolEnds sh s target t ending → ending = .exited 0 := by
  cases h with
  | unprepared hp =>
    rw [hfail] at hp
    exact Or.inr (Or.inr ⟨prepare_error hfail, fun _ ⟨_, _, _, hs, _⟩ => absurd hs (not_starts_of_error hfail)⟩)
  | toolless hp =>
    rw [hp] at hfail
    cases hfail
  | unstarted _ hc hfind =>
    cases hfail
    exact Or.inr (Or.inr ⟨id, fun _ ⟨_, _, _, hs, _⟩ => absurd hs (not_starts_of_not_found hc hfind)⟩)
  | @stopped c d tool _ hs hr =>
    cases hfail
    rcases Ending.result_eq_error.1 hr with ⟨code, hcode, hne, rfl⟩ | ⟨hkilled, rfl⟩
    · exact Or.inl ⟨_, code, hne, ⟨c, d, tool, hs, hcode⟩, rfl⟩
    · exact Or.inr (Or.inl ⟨_, ⟨c, d, tool, hs, hkilled⟩, rfl⟩)
  | @concluded c d tool hs hz =>
    -- the tool has ended with 0, so it is not its ending that the target fails for
    obtain ⟨-, reason, rfl⟩ := conclude_error hfail
    exact Or.inr (Or.inr ⟨id, fun _ he => he.unique ⟨c, d, tool, hs, hz⟩⟩)

/-- A target whose tool ended with another code than 0 fails with that code. -/
theorem exitCode_of_exited (hfail : (target.run sh s t).result = .error why) {code : Nat}
    (he : ToolEnds sh s target t (.exited code)) (hne : code ≠ 0) : why.exitCode = code := by
  rcases (target.course sh s t).error hfail with ⟨command, other, -, hother, rfl⟩ |
    ⟨command, hkilled, -⟩ | ⟨-, hzero⟩
  · cases he.unique hother
    rfl
  · cases he.unique hkilled
  · cases hzero _ he
    exact absurd rfl hne

/-- A target that fails for any other cause gives 1. -/
theorem exitCode_of_not_exited (hfail : (target.run sh s t).result = .error why)
    (hnot : ∀ code, ToolEnds sh s target t (.exited code) → code = 0) : why.exitCode = 1 := by
  rcases (target.course sh s t).error hfail with ⟨command, code, hne, hcode, -⟩ |
    ⟨command, -, rfl⟩ | ⟨hstep, -⟩
  · exact absurd (hnot code hcode) hne
  · rfl
  · exact Failure.exitCode_of_not_isOfStep hstep

/-- No failure of a target gives the exit code 0. -/
theorem exitCode_ne_zero (hfail : (target.run sh s t).result = .error why) : why.exitCode ≠ 0 := by
  rcases (target.course sh s t).error hfail with ⟨command, code, hne, -, rfl⟩ |
    ⟨command, -, rfl⟩ | ⟨hstep, -⟩
  · exact Int.natCast_ne_zero.2 hne
  · exact Int.one_ne_zero
  · rw [Failure.exitCode_of_not_isOfStep hstep]
    exact Int.one_ne_zero

end Target

end DocRunner
