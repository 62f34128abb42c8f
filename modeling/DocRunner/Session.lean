import DocRunner.Run
import DocRunner.Settings.Resolve

/-!
# Sessions

A `Session` keeps a shell, settings and a file tree over a row of steps. `Session.step` does one step and tells
what came of it; what fails leaves the shell and the settings as they were.
-/

namespace DocRunner

/-- An entry to set up, at a path below the workspace. -/
structure Placement where
  path : String
  entry : Entry

/-- What lasts from step to step. The workspace is a location of the tree. -/
structure Session where
  shell : Shell
  settings : Settings
  workspace : Location
  tree : Tree

/-- A step of a session. -/
inductive Step
  /-- Sets variables, then settles the settings. -/
  | resolve (config : Option String) (flags : Flags) (vars : Variables)
  /-- Changes settings. -/
  | set (changes : Layer)
  /-- Runs targets. -/
  | run (targets : List Target)
  /-- Changes the directory. -/
  | changeDirectory (dir : String)
  /-- Sets up entries. -/
  | place (placements : List Placement)
  /-- Removes an entry. -/
  | remove (path : String)
  /-- Changes the log level. -/
  | logLevel (value : Option String)

/-- What comes of a step. -/
inductive Reply
  | done
  | settings (s : Settings)
  | failed (why : Failure)
  | targetFailed (target : Target) (why : Failure)

namespace Tree

/-- Sets up entries in order. The workspace is made anew if it is gone. -/
def placeAll (t : Tree) (workspace : Location) (placements : List Placement) : Tree :=
  placements.foldl (fun t p => t.place [] (Path.join workspace.path p.path) p.entry) t

/-- Removes the entry at a location. -/
def discardAt (t : Tree) (mustBeDirectory : Bool) (place : Location) : Tree :=
  match t.lookup place with
  | some .directory => t.erase place
  | _ => if mustBeDirectory then t else t.erase place

/-- Removes the entry at a path, if it is there, links included. A path that ends with a slash
names directories only. -/
def discard (t : Tree) (workspace : Location) (path : String) : Tree :=
  match t.resolveEntry workspace (Path.dropSlashes path) with
  | .ok place => t.discardAt (Path.endsWithSlash path) place
  | .error _ => t

end Tree

namespace Session

/-- Does a step. Gives the reply, the events and what lasts. -/
def step (x : Session) : Step → Reply × List Event × Session
  | .resolve config flags vars =>
    let shell := { x.shell with vars := x.shell.vars.setAll vars }
    let settled := Settings.resolve shell x.tree config flags
    match settled.result with
    | .error why => (.failed why, settled.events, { x with shell := shell })
    | .ok s => (.settings s, settled.events, { x with shell := shell, settings := s })
  | .set changes =>
    let s := x.settings.overlay changes
    (.settings s, [], { x with settings := s })
  | .run targets =>
    let o := runAll x.shell x.settings targets x.tree
    match o.result with
    | .error (target, why) => (.targetFailed target why, o.events, { x with tree := o.tree })
    | .ok () => (.done, o.events, { x with tree := o.tree })
  | .changeDirectory dir =>
    match x.shell.changeDirectory x.tree dir with
    | .error why => (.failed why, [], x)
    | .ok shell => (.done, [], { x with shell := shell })
  | .place placements => (.done, [], { x with tree := x.tree.placeAll x.workspace placements })
  | .remove path => (.done, [], { x with tree := x.tree.discard x.workspace path })
  | .logLevel value => (.done, [], { x with shell := { x.shell with logLevel := value } })

end Session

end DocRunner
