import DocRunner.Proofs.Run.Information
import DocRunner.Proofs.Run.TwoLevels
import DocRunner.Session

/-!
# Sessions at two log levels

* `Session.step_resolve`, `Session.step_run`, `Session.step_changeDirectory` : what a step gives, in
  terms of what is done in it;
* `Session.withLevel x level` : a session at another log level;
* `Session.step_withLevel` : a step at another log level does the same;
* `Session.stepAll`, `Session.stepAll_withLevel` : so does a whole row of steps.
-/

namespace DocRunner

/-- What is replied when settings are settled. -/
def Reply.ofSettings : Except Failure Settings → Reply
  | .ok s => .settings s
  | .error why => .failed why

/-- What is replied when targets are run. -/
def Reply.ofRun : Except (Target × Failure) Unit → Reply
  | .ok () => .done
  | .error (target, why) => .targetFailed target why

/-- What is replied when the directory is changed. -/
def Reply.ofChange : Except Failure Shell → Reply
  | .ok _ => .done
  | .error why => .failed why

/-- A shell at another log level. -/
def Shell.withLevel (sh : Shell) (level : Option String) : Shell := { sh with logLevel := level }

/-- A step leaves the log level as it is. -/
def Step.KeepsLevel : Step → Prop
  | .logLevel _ => False
  | _ => True

namespace Session

variable {x : Session} {a : Step}

/-! ## What a step gives -/

/-- A session with the variables that come with a step. -/
def withVars (x : Session) (vars : Variables) : Session :=
  { x with shell := { x.shell with vars := x.shell.vars.setAll vars } }

theorem step_resolve (x : Session) (config : Option String) (flags : Flags) (vars : Variables) :
    x.step (.resolve config flags vars) =
      (.ofSettings (Settings.resolve (x.withVars vars).shell x.tree config flags).result,
        (Settings.resolve (x.withVars vars).shell x.tree config flags).events,
        { x.withVars vars with
          settings :=
            (Settings.resolve (x.withVars vars).shell x.tree config flags).result.toOption.getD
              x.settings }) := by
  unfold step withVars
  dsimp only
  split
  · rename_i why h
    rw [h]
    rfl
  · rename_i s h
    rw [h]
    rfl

theorem step_run (x : Session) (targets : List Target) :
    x.step (.run targets) =
      (.ofRun (runAll x.shell x.settings targets x.tree).result,
        (runAll x.shell x.settings targets x.tree).events,
        { x with tree := (runAll x.shell x.settings targets x.tree).tree }) := by
  unfold step
  dsimp only
  split
  · rename_i target why h
    rw [h]
    rfl
  · rename_i h
    rw [h]
    rfl

theorem step_changeDirectory (x : Session) (dir : String) :
    x.step (.changeDirectory dir) =
      (.ofChange (x.shell.changeDirectory x.tree dir), [],
        { x with shell := (x.shell.changeDirectory x.tree dir).toOption.getD x.shell }) := by
  unfold step
  dsimp only
  split
  · rename_i why h
    rw [h]
    rfl
  · rename_i sh h
    rw [h]
    rfl

/-! ## Another log level -/

/-- A session at another log level. -/
def withLevel (x : Session) (level : Option String) : Session := { x with shell := x.shell.withLevel level }

theorem hides_all (sh : Shell) : sh.Hides fun _ => true := ⟨fun _ _ => rfl, fun _ _ hkeep => nomatch hkeep⟩

theorem resolve_withLevel (sh : Shell) (level : Option String) (t : Tree) (config : Option String)
    (flags : Flags) :
    (Settings.resolve (sh.withLevel level) t config flags).result = (Settings.resolve sh t config flags).result ∧
      SameButLevel sh.isQuiet (sh.withLevel level).isQuiet (fun _ => true)
        (Settings.resolve sh t config flags).events
        (Settings.resolve (sh.withLevel level) t config flags).events := by
  obtain ⟨hresult, hevents⟩ := Settings.resolve_shows (hides_all sh) t config flags
  obtain ⟨hresult', hevents'⟩ := Settings.resolve_shows (hides_all (sh.withLevel level)) t config flags
  exact ⟨hresult'.trans hresult.symm, hevents.sameButLevel hevents'⟩

theorem runAll_withLevel (sh : Shell) (level : Option String) (s : Settings) (targets : List Target) (t : Tree) :
    (runAll (sh.withLevel level) s targets t).result = (runAll sh s targets t).result ∧
      SameButLevel sh.isQuiet (sh.withLevel level).isQuiet (fun _ => true) (runAll sh s targets t).events
        (runAll (sh.withLevel level) s targets t).events ∧
      (runAll (sh.withLevel level) s targets t).tree = (runAll sh s targets t).tree := by
  obtain ⟨hresult, hevents, htree⟩ := runAll_shows (hides_all sh) s targets t
  obtain ⟨hresult', hevents', htree'⟩ := runAll_shows (hides_all (sh.withLevel level)) s targets t
  exact ⟨hresult'.trans hresult.symm, hevents.sameButLevel hevents', htree'.trans htree.symm⟩

theorem changeDirectory_withLevel (sh : Shell) (level : Option String) (t : Tree) (dir : String) :
    (sh.withLevel level).changeDirectory t dir = (sh.changeDirectory t dir).map fun sh => sh.withLevel level := by
  unfold Shell.changeDirectory
  show (if t.isDirectory [] (sh.path dir) then _ else Except.error (Failure.noDirectory (sh.path dir))) = _
  split_ifs <;> rfl

/-! ## Steps -/

/-- What comes of a step at two log levels. -/
structure StepAlike (quiet quiet' : Bool) (level : Option String)
    (r r' : Reply × List Event × Session) : Prop where
  reply : r'.1 = r.1
  events : SameButLevel quiet quiet' (fun _ => true) r.2.1 r'.2.1
  lasting : r'.2.2 = r.2.2.withLevel level

theorem sameButLevel_nil (quiet quiet' : Bool) : SameButLevel quiet quiet' (fun _ => true) [] [] :=
  ⟨rfl, fun _ => ⟨rfl, rfl, rfl⟩, fun _ _ => ⟨rfl, rfl, rfl⟩⟩

/-- A step at another log level does the same. -/
theorem step_withLevel (x : Session) (level : Option String) (ha : a.KeepsLevel) :
    StepAlike x.shell.isQuiet (x.shell.withLevel level).isQuiet level (x.step a)
      ((x.withLevel level).step a) := by
  cases a with
  | resolve config flags vars =>
    obtain ⟨hresult, hevents⟩ := resolve_withLevel (x.withVars vars).shell level x.tree config flags
    rw [step_resolve, step_resolve]
    refine ⟨congrArg Reply.ofSettings hresult, hevents, ?_⟩
    dsimp only [withLevel, withVars, Shell.withLevel] at hresult ⊢
    rw [hresult]
  | run targets =>
    obtain ⟨hresult, hevents, htree⟩ := runAll_withLevel x.shell level x.settings targets x.tree
    rw [step_run, step_run]
    refine ⟨congrArg Reply.ofRun hresult, hevents, ?_⟩
    dsimp only [withLevel] at htree ⊢
    rw [htree]
  | changeDirectory dir =>
    have hchange := changeDirectory_withLevel x.shell level x.tree dir
    rw [step_changeDirectory, step_changeDirectory]
    dsimp only [withLevel]
    rw [hchange]
    cases x.shell.changeDirectory x.tree dir with
    | error why => exact ⟨rfl, sameButLevel_nil _ _, rfl⟩
    | ok sh => exact ⟨rfl, sameButLevel_nil _ _, rfl⟩
  | set changes => exact ⟨rfl, sameButLevel_nil _ _, rfl⟩
  | place placements => exact ⟨rfl, sameButLevel_nil _ _, rfl⟩
  | remove path =>
    refine ⟨rfl, sameButLevel_nil _ _, ?_⟩
    unfold step
    dsimp only [withLevel]
  | logLevel value => exact ha.elim

/-- The log level lasts. -/
theorem step_logLevel (x : Session) (ha : a.KeepsLevel) : (x.step a).2.2.shell.logLevel = x.shell.logLevel := by
  cases a with
  | resolve config flags vars =>
    rw [step_resolve]
    rfl
  | run targets => rw [step_run]
  | changeDirectory dir =>
    rw [step_changeDirectory]
    unfold Shell.changeDirectory
    split_ifs <;> rfl
  | logLevel value => exact ha.elim
  | _ => rfl

/-! ## Rows of steps -/

/-- Does steps in order. Gives what comes of each, and what lasts. -/
def stepAll (x : Session) : List Step → List (Reply × List Event) × Session
  | [] => ([], x)
  | a :: steps =>
    let (reply, events, y) := x.step a
    let (rest, z) := y.stepAll steps
    ((reply, events) :: rest, z)

/-- The steps of a session at another log level do the same. -/
theorem stepAll_withLevel (x : Session) (level : Option String) {steps : List Step}
    (h : ∀ a ∈ steps, a.KeepsLevel) :
    List.Forall₂ (fun r r' => r'.1 = r.1 ∧
        SameButLevel x.shell.isQuiet (x.shell.withLevel level).isQuiet (fun _ => true) r.2 r'.2)
      (x.stepAll steps).1 ((x.withLevel level).stepAll steps).1 ∧
      ((x.withLevel level).stepAll steps).2 = (x.stepAll steps).2.withLevel level := by
  induction steps generalizing x with
  | nil => exact ⟨.nil, rfl⟩
  | cons a steps ih =>
    obtain ⟨ha, hsteps⟩ := List.forall_mem_cons.1 h
    obtain ⟨hreply, hevents, hlasting⟩ := step_withLevel x level ha
    obtain ⟨hrest, hend⟩ := ih (x.step a).2.2 hsteps
    -- the rest goes on from the sessions that the step leaves, of which one is again the other at another level
    have hquiet : (x.step a).2.2.shell.isQuiet = x.shell.isQuiet := by
      unfold Shell.isQuiet
      rw [step_logLevel x ha]
    rw [← hlasting] at hrest hend
    rw [hquiet] at hrest
    exact ⟨.cons ⟨hreply, hevents⟩ hrest, hend⟩

theorem stepAll_informs (x : Session) (steps : List Step) : ∀ r ∈ (x.stepAll steps).1, Informs r.2 := by
  induction steps generalizing x with
  | nil => exact fun _ hr => absurd hr List.not_mem_nil
  | cons a steps ih => exact List.forall_mem_cons.2 ⟨step_informs x a, ih _⟩

end Session

end DocRunner
