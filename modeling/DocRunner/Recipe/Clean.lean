import DocRunner.Outcome
import DocRunner.Settings.Basic
import DocRunner.Shell

/-!
# Cleaning

`clean` removes the entries of the build directory one by one, in the order of their names, and keeps the
directory itself. It is no error if there is none. An entry that cannot be removed ends the cleaning.
-/

namespace DocRunner.Recipe

/-- Removes entries of a directory, given by its path, up to the first that cannot be removed. -/
def removeEntries (dir : String) : List String → Tree → Outcome
  | [], t => .done [] t
  | name :: names, t =>
    match t.removePath [] (Path.join dir name) with
    | .error why => .fail (.notRemoved (Path.join dir name) why) t
    | .ok t => removeEntries dir names t

/-- Removes everything in the directory at a path. -/
def emptyDirectory (dir : String) (t : Tree) : Outcome :=
  match t.readDirectory [] dir with
  | .error why => .fail (.unreadableDirectory dir why) t
  | .ok names => removeEntries dir names t

/-- Removes everything in the build directory. -/
def clean (sh : Shell) (s : Settings) (t : Tree) : Outcome :=
  if t.isThere [] (sh.path s.buildDir) then
    (emptyDirectory (sh.path s.buildDir) t).after (sh.note ("Removing everything under " ++ s.buildDir))
  else .done (sh.note ("Nothing to clean, " ++ s.buildDir ++ " does not exist")) t

end DocRunner.Recipe
