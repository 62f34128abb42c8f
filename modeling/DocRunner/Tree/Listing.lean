import DocRunner.Tree.Basic

/-!
# Locations and trees as text

* `Location.path l` : the absolute path of a location;
* `Tree.listing t root` : a line for each entry below `root`, with its path from there, in the order of the
  lines. A directory ends with a slash, and a link shows its target.
-/

namespace DocRunner

/-- Names joined by slashes. -/
def slashed (names : List String) : String :=
  String.intercalate "/" names

/-- The absolute path of a location. -/
def Location.path (l : Location) : String :=
  "/" ++ slashed l.reverse

/-- How an entry with a path is listed. -/
def Entry.line (path : String) : Entry → String
  | .directory => path ++ "/"
  | .link target => path ++ " -> " ++ target
  | _ => path

namespace Tree

/-- The names that lead from `root` to a location below it. -/
def pathBelow (root l : Location) : Option (List String) :=
  if root.isSuffixOf l && root.length < l.length then some (l.take (l.length - root.length)).reverse else none

/-- A line for each entry below `root`, in rising order. -/
def listing (t : Tree) (root : Location) : List String :=
  sortNames <| t.records.filterMap fun r =>
    match pathBelow root r.1, t.lookup r.1 with
    | some names, some entry => some (entry.line (slashed names))
    | _, _ => none

end Tree

end DocRunner
