import DocRunner.Program
import DocRunner.Proofs.Run.Calls
import DocRunner.Session

/-!
# The lines of information

What a quiet run leaves out are the echoes of commands and the lines of information. There
are five kinds of these.

* `Event.IsInformation e` : an echo, or a line that begins like one of the five kinds;
* `Informs events` : all events that a quiet run leaves out are of this form;
* `Target.Course.informs`, `runAll_informs`, `Settings.resolve_informs`, `Session.step_informs` : so it is in
  all that is done.
-/

namespace DocRunner

/-- How the lines of information begin. -/
def openings : List String :=
  ["Using config file: ", "Nothing to clean, ", "Removing everything under ", "Serving live preview on port ",
    "Skipping unreadable report line: "]

/-- An event is the echo of a command or a line of information. -/
def Event.IsInformation : Event → Prop
  | .note line => ∃ opening ∈ openings, ∃ rest, line = opening ++ rest
  | .echo _ => True
  | _ => False

/-- What is informational is an echo or a line of information. -/
def Informs (events : List Event) : Prop := ∀ e ∈ events, e.isInformational = true → e.IsInformation

variable {sh : Shell} {s : Settings} {t : Tree} {events events' : List Event}

theorem Informs.nil : Informs [] := fun _ he => absurd he List.not_mem_nil

theorem Informs.append (h : Informs events) (h' : Informs events') : Informs (events ++ events') :=
  List.forall_mem_append.2 ⟨h, h'⟩

theorem Informs.flatMap {α : Type} {f : α → List Event} {xs : List α} (h : ∀ x ∈ xs, Informs (f x)) :
    Informs (xs.flatMap f) := by
  intro e he
  obtain ⟨x, hx, hmem⟩ := List.mem_flatMap.1 he
  exact h x hx e hmem

theorem Informs.of_none (h : ∀ e ∈ events, e.isInformational = false) : Informs events := by
  intro e he hinformational
  rw [h e he] at hinformational
  cases hinformational

theorem Informs.print (text : String) : Informs [.print text] :=
  Informs.of_none fun _ he => by rw [List.mem_singleton.1 he]; rfl

theorem Informs.note {line opening rest : String} (sh : Shell) (hline : line = opening ++ rest)
    (h : opening ∈ openings) : Informs (sh.note line) := by
  intro e he _
  unfold Shell.note at he
  split at he
  · cases he
  · rw [List.mem_singleton.1 he]
    exact ⟨opening, h, rest, hline⟩

theorem Informs.echo (sh : Shell) (command : String) : Informs (sh.echo command) := by
  intro e he _
  unfold Shell.echo at he
  split at he
  · cases he
  · rw [List.mem_singleton.1 he]
    trivial

theorem Informs.tool (tool : Tool) (d : Location) (vars : Variables) (arguments : List String) :
    Informs (tool.events d vars arguments) := by
  apply Informs.of_none
  simp [Tool.events, Event.isInformational]

/-! ## Targets -/

namespace Recipe

theorem clean_informs (sh : Shell) (s : Settings) (t : Tree) : Informs (clean sh s t).events := by
  unfold clean
  split
  · rw [Outcome.events_after, emptyDirectory_events, List.append_nil]
    exact Informs.note sh rfl (by decide)
  · exact Informs.note sh String.append_assoc (by decide)

theorem showReport_informs (sh : Shell) (s : Settings) (t : Tree) : Informs (showReport sh s t).events := by
  unfold showReport
  split
  · split
    · exact Informs.nil
    · apply Informs.append _ (Informs.print _)
      apply Informs.flatMap
      intro line _
      split
      · exact Informs.nil
      · exact Informs.note sh rfl (by decide)
  · exact Informs.nil

end Recipe

namespace Target

theorem prepare_informs (sh : Shell) (s : Settings) (target : Target) (t : Tree) :
    Informs (target.prepare sh s t).events := by
  cases target with
  | help => exact Informs.print usage
  | clean => exact Recipe.clean_informs sh s t
  | stricthtml => exact Recipe.clean_informs sh s t
  | linkcheck =>
    rw [show (linkcheck.prepare sh s t).events = [] from Recipe.removeReport_events sh s t]
    exact Informs.nil
  | livehtml => exact Informs.note sh String.append_assoc (by decide)
  | html => exact Informs.nil
  | spellcheck => exact Informs.nil

theorem conclude_informs (sh : Shell) (s : Settings) (target : Target) (t : Tree) :
    Informs (target.conclude sh s t).events := by
  cases target with
  | html => exact Informs.print _
  | stricthtml => exact Informs.print _
  | spellcheck => exact Informs.print _
  | linkcheck => exact (Informs.print _).append (Recipe.showReport_informs sh s t)
  | help => exact Informs.nil
  | clean => exact Informs.nil
  | livehtml => exact Informs.nil

theorem Course.informs {target : Target} {o : Outcome} (h : Course sh s target t o) : Informs o.events := by
  have hprepared := prepare_informs sh s target t
  cases h with
  | unprepared => exact hprepared
  | toolless => exact hprepared
  | unstarted => exact hprepared.append (Informs.echo sh _)
  | stopped => exact hprepared.append ((Informs.echo sh _).append (Informs.tool _ _ _ _))
  | concluded =>
    exact (hprepared.append ((Informs.echo sh _).append (Informs.tool _ _ _ _))).append
      (conclude_informs sh s target _)

end Target

theorem runAll_informs (sh : Shell) (s : Settings) (targets : List Target) (t : Tree) :
    Informs (runAll sh s targets t).events := by
  obtain ⟨visits, hvisits⟩ := Visits.exist sh s targets t
  rw [hvisits.events]
  exact Informs.flatMap fun v _ => (v.target.course sh s v.tree).informs

/-! ## Programs and sessions -/

theorem Settings.resolve_informs (sh : Shell) (t : Tree) (config : Option String) (flags : Flags) :
    Informs (resolve sh t config flags).events := by
  unfold resolve fileNote
  dsimp only
  split
  · exact Informs.note sh rfl (by decide)
  · exact Informs.nil

theorem Verdict.events_informs (verdict : Verdict) : Informs verdict.events := by
  apply Informs.of_none
  cases verdict with
  | usageError why => cases why <;> simp [Verdict.events, Event.isInformational]
  | _ => simp [Verdict.events, Event.isInformational]

namespace Program

theorem finish_informs {events : List Event} (h : Informs events) (verdict : Verdict) (t : Tree) :
    Informs (finish verdict events t).events := h.append (Verdict.events_informs verdict)

theorem perform_informs (sh : Shell) (s : Settings) (targets : List Target) (t : Tree) :
    Informs (perform sh s targets t).events := by
  have hrun := runAll_informs sh s targets t
  unfold perform
  dsimp only
  split
  · exact finish_informs hrun _ _
  · exact finish_informs hrun _ _

end Program

theorem Session.step_informs (x : Session) (a : Step) : Informs (x.step a).2.1 := by
  unfold Session.step
  cases a with
  | resolve config flags vars =>
    dsimp only
    split
    · exact Settings.resolve_informs _ x.tree config flags
    · exact Settings.resolve_informs _ x.tree config flags
  | run targets =>
    dsimp only
    split
    · exact runAll_informs _ _ _ _
    · exact runAll_informs _ _ _ _
  | changeDirectory dir =>
    dsimp only
    split
    · exact Informs.nil
    · exact Informs.nil
  | _ => exact Informs.nil

end DocRunner
