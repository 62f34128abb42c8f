import DocRunner.Proofs.Failing
import DocRunner.Run

/-!
# The course of a target

All targets go alike: something comes before the tool (`Target.prepare`), the tool is started
(`Target.command?`), and something comes behind it if it succeeds (`Target.conclude`).

* `Target.run_eq` : running a target is preparing it, then running its command, then concluding;
* `Ending.result` : how a step goes, by the way its tool ends; `Shell.run_of_found`, `Shell.run_of_not_found` :
  running a command, by what is found for it;
* `Target.Starts sh s target t c d tool` : the tool of a target is started, and only in one way
  (`Target.Starts.unique`);
* `Target.Course sh s target t o` : the five ways in which a target goes, with what each of them leaves.
  `Target.course` says that there is no other. Whatever holds of all runs of a target is proved by cases on it.
-/

namespace DocRunner

/-! ## Running a command -/

/-- How a step goes whose tool ends so. -/
def Ending.result (c : Command) : Ending → Except Failure Unit
  | .exited 0 => .ok ()
  | .exited code => .error (.stepFailed c.text (some code))
  | .killed => .error (.stepFailed c.text none)

theorem Ending.result_eq_ok {c : Command} {ending : Ending} : ending.result c = .ok () ↔ ending = .exited 0 := by
  rcases ending with ⟨_ | code⟩ | _ <;> simp [Ending.result]

/-- A step fails with the code of its tool, which is not 0, or because the tool was killed. -/
theorem Ending.result_eq_error {c : Command} {ending : Ending} {why : Failure} :
    ending.result c = .error why ↔
      (∃ code, ending = .exited code ∧ code ≠ 0 ∧ why = .stepFailed c.text (some code)) ∨
        ending = .killed ∧ why = .stepFailed c.text none := by
  rcases ending with ⟨_ | code⟩ | _ <;> simp [Ending.result, eq_comm]

namespace Shell

variable {sh : Shell} {t : Tree} {c : Command}

theorem run_of_not_found {why : Refusal} (h : sh.find t c = .error why) :
    sh.run c t = ⟨.error (.notStarted c.text why), sh.echo c.text, t⟩ := by
  rw [run, h]
  simp only [Outcome.after, Outcome.fail, List.append_nil]

theorem run_of_found {d : Location} {tool : Tool} (h : sh.find t c = .ok (d, tool)) :
    sh.run c t = ⟨tool.ending.result c, sh.echo c.text ++ tool.events d (sh.varsFor c) c.arguments,
      tool.write d (sh.varsFor c) c.arguments t⟩ := by
  rw [run, h]
  dsimp only [Outcome.after]
  rcases tool.ending with ⟨_ | code⟩ | _ <;> rfl

/-- A command is started in the directory that the working directory leads to. -/
theorem resolveDirectory_of_find {d : Location} {tool : Tool} (h : sh.find t c = .ok (d, tool)) :
    t.resolveDirectory [] sh.directory = .ok d := by
  unfold find at h
  dsimp only at h
  split at h
  · cases h
  · cases hd : t.resolveDirectory [] sh.directory with
    | error why =>
      rw [hd] at h
      cases h
    | ok there =>
      rw [hd] at h
      obtain ⟨other, -, heq⟩ := map_eq_ok h
      cases heq
      rfl

end Shell

/-! ## The stages of a target -/

namespace Target

variable {sh : Shell} {s : Settings} {t : Tree}

/-- What comes before the tool of a target. -/
def prepare (sh : Shell) (s : Settings) (target : Target) (t : Tree) : Outcome :=
  match target with
  | .help => .done [.print usage] t
  | .clean => Recipe.clean sh s t
  | .stricthtml => Recipe.clean sh s t
  | .linkcheck => Recipe.removeReport sh s t
  | .livehtml =>
    .done (sh.note ("Serving live preview on port " ++ toString s.port.toNat ++ ", interrupt to stop")) t
  | _ => .done [] t

/-- The command of a target. -/
def command? (sh : Shell) (s : Settings) : Target → Option Command
  | .help => none
  | .clean => none
  | .html => some (s.htmlCommand false)
  | .stricthtml => some (s.htmlCommand true)
  | .linkcheck => some (s.linkcheckCommand sh)
  | .spellcheck => some s.spellCommand
  | .livehtml => some s.liveCommand

/-- What comes behind the tool of a target. -/
def conclude (sh : Shell) (s : Settings) (target : Target) (t : Tree) : Outcome :=
  match target with
  | .html => .done [.print (Recipe.htmlTrailer s)] t
  | .stricthtml => .done [.print (Recipe.htmlTrailer s)] t
  | .linkcheck => (Recipe.showReport sh s t).after [.print (Recipe.linkcheckTrailer s)]
  | .spellcheck => .done [.print (Recipe.spellTrailer s)] t
  | _ => .done [] t

/-- Runs the command of a target, if it has one, and concludes. -/
def carryOut (sh : Shell) (s : Settings) (target : Target) (t : Tree) : Outcome :=
  match target.command? sh s with
  | none => .done [] t
  | some c => (sh.run c t).andThen (target.conclude sh s)

/-- Running a target is preparing it, running its command and concluding. -/
theorem run_eq (sh : Shell) (s : Settings) (target : Target) (t : Tree) :
    target.run sh s t = (target.prepare sh s t).andThen (target.carryOut sh s) := by
  cases target with
  | help => rfl
  | clean => exact (Outcome.andThen_done_nil _).symm
  | html => rfl
  | stricthtml => rfl
  | linkcheck => rfl
  | spellcheck => rfl
  | livehtml =>
    have hrun : (livehtml.carryOut sh s) t = sh.run s.liveCommand t := Outcome.andThen_done_nil _
    rw [prepare, Outcome.done_andThen, hrun]
    rfl

/-- A conclusion changes nothing in the tree. -/
theorem conclude_tree (sh : Shell) (s : Settings) (target : Target) (t : Tree) :
    (target.conclude sh s t).tree = t := by
  cases target with
  | linkcheck =>
    rw [conclude, Outcome.tree_after, Recipe.showReport]
    split
    · split <;> rfl
    · rfl
  | _ => rfl

/-- The tool of a target is started: for which command, in which directory, and what it is. -/
structure Starts (sh : Shell) (s : Settings) (target : Target) (t : Tree) (c : Command) (d : Location)
    (tool : Tool) : Prop where
  prepared : (target.prepare sh s t).result = .ok ()
  command : target.command? sh s = some c
  found : sh.find (target.prepare sh s t).tree c = .ok (d, tool)

/-- A target starts one tool, and in one way. -/
theorem Starts.unique {target : Target} {c c' : Command} {d d' : Location} {tool tool' : Tool}
    (h : Starts sh s target t c d tool) (h' : Starts sh s target t c' d' tool') :
    c = c' ∧ d = d' ∧ tool = tool' := by
  obtain ⟨-, hc, hfind⟩ := h
  obtain ⟨-, hc', hfind'⟩ := h'
  rw [hc] at hc'
  cases hc'
  rw [hfind] at hfind'
  cases hfind'
  exact ⟨rfl, rfl, rfl⟩

theorem not_starts_of_error {target : Target} {c : Command} {d : Location} {tool : Tool} {why : Failure}
    (h : (target.prepare sh s t).result = .error why) : ¬ Starts sh s target t c d tool := by
  rintro ⟨hok, -, -⟩
  rw [h] at hok
  cases hok

theorem not_starts_of_no_command {target : Target} {c : Command} {d : Location} {tool : Tool}
    (h : target.command? sh s = none) : ¬ Starts sh s target t c d tool := by
  rintro ⟨-, hc, -⟩
  rw [h] at hc
  cases hc

theorem not_starts_of_not_found {target : Target} {c c' : Command} {d : Location} {tool : Tool} {why : Refusal}
    (hc : target.command? sh s = some c) (h : sh.find (target.prepare sh s t).tree c = .error why) :
    ¬ Starts sh s target t c' d tool := by
  rintro ⟨-, hc', hfind⟩
  rw [hc] at hc'
  cases hc'
  rw [h] at hfind
  cases hfind

/-- The ways in which a target goes. -/
inductive Course (sh : Shell) (s : Settings) (target : Target) (t : Tree) : Outcome → Prop
  /-- It fails before its tool. -/
  | unprepared {why : Failure} :
      (target.prepare sh s t).result = .error why → Course sh s target t (target.prepare sh s t)
  /-- It has no tool. -/
  | toolless :
      (target.prepare sh s t).result = .ok () → target.command? sh s = none →
      Course sh s target t (target.prepare sh s t)
  /-- Its tool cannot be started. -/
  | unstarted {c : Command} {why : Refusal} :
      (target.prepare sh s t).result = .ok () → target.command? sh s = some c →
      sh.find (target.prepare sh s t).tree c = .error why →
      Course sh s target t
        ⟨.error (.notStarted c.text why), (target.prepare sh s t).events ++ sh.echo c.text,
          (target.prepare sh s t).tree⟩
  /-- Its tool fails. -/
  | stopped {c : Command} {d : Location} {tool : Tool} {why : Failure} :
      Starts sh s target t c d tool → tool.ending.result c = .error why →
      Course sh s target t
        ⟨.error why,
          (target.prepare sh s t).events ++ (sh.echo c.text ++ tool.events d (sh.varsFor c) c.arguments),
          tool.write d (sh.varsFor c) c.arguments (target.prepare sh s t).tree⟩
  /-- Its tool succeeds. -/
  | concluded {c : Command} {d : Location} {tool : Tool} :
      Starts sh s target t c d tool → tool.ending = .exited 0 →
      Course sh s target t
        ((target.conclude sh s (tool.write d (sh.varsFor c) c.arguments (target.prepare sh s t).tree)).after
          ((target.prepare sh s t).events ++ (sh.echo c.text ++ tool.events d (sh.varsFor c) c.arguments)))

/-- Every run of a target goes in one of these ways. -/
theorem course (sh : Shell) (s : Settings) (target : Target) (t : Tree) :
    Course sh s target t (target.run sh s t) := by
  rw [run_eq]
  cases hp : (target.prepare sh s t).result with
  | error why =>
    rw [Outcome.andThen_of_error hp]
    exact .unprepared hp
  | ok _ =>
    rw [Outcome.andThen_of_ok hp, carryOut]
    cases hc : target.command? sh s with
    | none =>
      have hsame : (Outcome.done [] (target.prepare sh s t).tree).after (target.prepare sh s t).events =
          target.prepare sh s t := by
        rw [← Outcome.andThen_of_ok hp (.done []), Outcome.andThen_done_nil]
      rw [hsame]
      exact .toolless hp hc
    | some c =>
      dsimp only
      cases hf : sh.find (target.prepare sh s t).tree c with
      | error why =>
        have hfail : (sh.run c (target.prepare sh s t).tree).result = .error (.notStarted c.text why) := by
          rw [Shell.run_of_not_found hf]
        rw [Outcome.andThen_of_error hfail, Shell.run_of_not_found hf]
        exact .unstarted hp hc hf
      | ok found =>
        obtain ⟨d, tool⟩ := found
        cases hr : tool.ending.result c with
        | error why =>
          have hfail : (sh.run c (target.prepare sh s t).tree).result = .error why := by
            rw [Shell.run_of_found hf, hr]
          rw [Outcome.andThen_of_error hfail, Shell.run_of_found hf, hr]
          exact .stopped ⟨hp, hc, hf⟩ hr
        | ok _ =>
          have hok : (sh.run c (target.prepare sh s t).tree).result = .ok () := by rw [Shell.run_of_found hf, hr]
          rw [Outcome.andThen_of_ok hok, Shell.run_of_found hf]
          have hcourse := Course.concluded ⟨hp, hc, hf⟩ (Ending.result_eq_ok.1 hr)
          rw [Outcome.after, List.append_assoc] at hcourse
          exact hcourse

end Target

end DocRunner
