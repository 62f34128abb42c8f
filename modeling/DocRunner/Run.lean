import DocRunner.Recipe.Build
import DocRunner.Recipe.LinkCheck
import DocRunner.Target

/-!
# Running targets

`Target.run` runs one target, `runAll` runs targets in order up to the first that fails, and tells which.
-/

namespace DocRunner

/-- Runs a target. -/
def Target.run (sh : Shell) (s : Settings) (target : Target) (t : Tree) : Outcome :=
  match target with
  | .help => .done [.print usage] t
  | .clean => Recipe.clean sh s t
  | .html => Recipe.html sh s false t
  | .stricthtml => Recipe.strict sh s t
  | .linkcheck => Recipe.linkcheck sh s t
  | .spellcheck => Recipe.spelling sh s t
  | .livehtml => Recipe.preview sh s t

/-- What a run of targets leaves. A failure comes with the target that failed. -/
structure RunOutcome where
  result : Except (Target × Failure) Unit
  events : List Event
  tree : Tree

/-- Runs targets in order up to the first that fails. -/
def runAll (sh : Shell) (s : Settings) : List Target → Tree → RunOutcome
  | [], t => ⟨.ok (), [], t⟩
  | target :: targets, t =>
    let o := target.run sh s t
    match o.result with
    | .error why => ⟨.error (target, why), o.events, o.tree⟩
    | .ok () =>
      let rest := runAll sh s targets o.tree
      { rest with events := o.events ++ rest.events }

/-- The shell in another directory, which has to exist. -/
def Shell.changeDirectory (sh : Shell) (t : Tree) (dir : String) : Except Failure Shell :=
  if t.isDirectory [] (sh.path dir) then .ok { sh with directory := sh.path dir }
  else .error (.noDirectory (sh.path dir))

end DocRunner
