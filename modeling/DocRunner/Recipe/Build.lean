import DocRunner.Recipe.Clean
import DocRunner.Recipe.Command

/-!
# Building, checking the spelling and serving

The recipes around one command each: `html` builds the pages, `strict` cleans first and builds with the strict
options, `spelling` checks the spelling and `preview` serves the pages. A closing line is printed only behind a
command that has succeeded.
-/

namespace DocRunner.Recipe

/-- The closing line of a build of the pages. -/
def htmlTrailer (s : Settings) : String :=
  "Build finished. The HTML pages are in " ++ s.htmlDir ++ ".\n"

/-- The closing line of a spell check. -/
def spellTrailer (s : Settings) : String :=
  "Spell check finished. Misspelled words are listed in " ++ Path.join s.spellingDir "output.txt" ++ ".\n"

/-- Builds the pages. -/
def html (sh : Shell) (s : Settings) (strict : Bool) (t : Tree) : Outcome :=
  (sh.run (s.htmlCommand strict) t).andThen (.done [.print (htmlTrailer s)])

/-- Cleans, then builds the pages strictly. -/
def strict (sh : Shell) (s : Settings) (t : Tree) : Outcome :=
  (clean sh s t).andThen (html sh s true)

/-- Checks the spelling. -/
def spelling (sh : Shell) (s : Settings) (t : Tree) : Outcome :=
  (sh.run s.spellCommand t).andThen (.done [.print (spellTrailer s)])

/-- Serves the pages until the server ends. -/
def preview (sh : Shell) (s : Settings) (t : Tree) : Outcome :=
  (sh.run s.liveCommand t).after
    (sh.note ("Serving live preview on port " ++ toString s.port.toNat ++ ", interrupt to stop"))

end DocRunner.Recipe
