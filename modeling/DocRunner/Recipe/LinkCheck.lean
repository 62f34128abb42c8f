import DocRunner.LinkReport
import DocRunner.Recipe.Command

/-!
# Checking the links

`linkcheck` removes the report of an earlier check, runs the script and summarises the report that the script
has left, if it has left one.
-/

namespace DocRunner.Recipe

/-- Where the link check leaves its report. -/
def reportPath (sh : Shell) (s : Settings) : String :=
  Path.join (sh.path s.linkcheckDir) "output.json"

/-- The closing line of a link check. -/
def linkcheckTrailer (s : Settings) : String :=
  "Link check complete; look for any errors in the above output or in " ++
    Path.join s.linkcheckDir "output.txt" ++ ".\n"

/-- Removes the report of an earlier check. -/
def removeReport (sh : Shell) (s : Settings) (t : Tree) : Outcome :=
  match t.removePath [] (reportPath sh s) with
  | .error why => .fail (.notRemoved (reportPath sh s) why) t
  | .ok t => .done [] t

/-- Summarises the report, if there is one. -/
def showReport (sh : Shell) (s : Settings) (t : Tree) : Outcome :=
  if t.isThere [] (reportPath sh s) then
    match t.readText [] (reportPath sh s) with
    | .error why => .fail (.unreadableFile why) t
    | .ok report => .done (LinkReport.summarize sh (reportPath sh s) report) t
  else .done [] t

/-- Checks the links. -/
def linkcheck (sh : Shell) (s : Settings) (t : Tree) : Outcome :=
  (removeReport sh s t).andThen fun t =>
    (sh.run (s.linkcheckCommand sh) t).andThen fun t =>
      (showReport sh s t).after [.print (linkcheckTrailer s)]

end DocRunner.Recipe
