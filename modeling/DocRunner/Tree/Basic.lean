import DocRunner.Path
import DocRunner.Tool

/-!
# The file tree

A `Tree` records what stands where. A `Location` is physical: it names directories and
never runs through a link.

* `Tree.lookup t l` : the entry at `l`. An entry counts only if it has a name that entries can have
  and all locations above it are directories, so that a tree is closed upwards by construction; the
  root is always a directory;
* `Tree.erase t l` : `t` without the entry at `l` and all that stands below it;
* `Tree.put t l e` : `t` with the entry `e` at `l` in place of what was there;
* `Tree.names t l` : the names of the direct entries of the directory `l`, in rising order.
-/

namespace DocRunner

/-- Where an entry stands: its name, then the names of the directories around it, from the inside out. The
root is the empty list. -/
abbrev Location := List String

/-- What can stand at a location. -/
inductive Entry
  | directory
  | file (bytes : ByteArray)
  | tool (program : Tool)
  | link (target : String)

/-- A file tree, given by its records. Of two records of one location the first counts. -/
structure Tree where
  records : List (Location × Entry)

namespace Tree

/-- The tree with nothing but the root. -/
def empty : Tree := ⟨[]⟩

/-- What stands at a location. -/
def lookup (t : Tree) : Location → Option Entry
  | [] => some .directory
  | name :: up =>
    match t.lookup up with
    | some .directory => if Path.isName name then t.records.lookup (name :: up) else none
    | _ => none

/-- Removes the entry at a location with all that stands below it. The root itself stays. -/
def erase (t : Tree) (l : Location) : Tree :=
  ⟨t.records.filter fun r => !l.isSuffixOf r.1⟩

/-- Puts an entry at a location. What was there goes, with all that stands below it. -/
def put (t : Tree) (l : Location) (e : Entry) : Tree :=
  ⟨(l, e) :: (t.erase l).records⟩

/-- Puts a name into a rising row of names, unless it is there. -/
def insertName (name : String) : List String → List String
  | [] => [name]
  | other :: rest =>
    if name < other then name :: other :: rest
    else if name = other then other :: rest
    else other :: insertName name rest

/-- The names in rising order of their code points, which is the order of their bytes in UTF-8, each once. -/
def sortNames (names : List String) : List String :=
  names.foldr insertName []

/-- The last name of a location directly below `d`, if an entry can have it. -/
def nameBelow (d : Location) : Location → Option String
  | [] => none
  | name :: up => if up = d && Path.isName name then some name else none

/-- The names of the direct entries of a directory, in rising order. -/
def names (t : Tree) (d : Location) : List String :=
  match t.lookup d with
  | some .directory => sortNames (t.records.filterMap fun r => nameBelow d r.1)
  | _ => []

end Tree

end DocRunner
