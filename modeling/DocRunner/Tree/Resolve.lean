import DocRunner.Tree.Basic
import DocRunner.Path
import DocRunner.Refusal

/-!
# From a path to a location

* `Tree.advance t here names` : walks along `names` up to the first link;
* `Tree.follow t budget here names` : walks along `names`, through at most `budget` links;
* `Tree.resolve t start path` : the location that a path names, links followed, seen from `start`;
* `Tree.resolveEntry t start path` : the location of the entry itself, which may be a link.
-/

namespace DocRunner

/-- The most links that one path may run through. -/
def linkLimit : Nat := 40

/-- The most bytes of a name. -/
def nameLimit : Nat := 255

/-- The most bytes of a path. -/
def pathLimit : Nat := 4095

/-- How a walk along names ends: at a location, at a refusal, or at a link with names still to walk. -/
inductive Walk
  | arrived (place : Location)
  | refused (why : Refusal)
  | linked (target : String) (base : Location) (rest : List String)

namespace Tree

/-- Walks along names up to the first link. Each step needs a directory to start from. -/
def advance (t : Tree) (here : Location) : List String → Walk
  | [] => .arrived here
  | name :: rest =>
    match t.lookup here with
    | some .directory =>
      if name = "." then t.advance here rest
      else if name = ".." then t.advance here.tail rest
      else if nameLimit < name.utf8ByteSize then .refused .nameTooLong
      else match t.lookup (name :: here) with
        | none => .refused .notFound
        | some (.link target) => .linked target here rest
        | some _ => t.advance (name :: here) rest
    | _ => .refused .notDirectory

/-- Where the walk along a path starts that is read at `here`. -/
def origin (path : String) (here : Location) : Location :=
  if Path.isAbsolute path then [] else here

/-- Walks along names through links, of which it follows at most `budget`. -/
def follow (t : Tree) (budget : Nat) (here : Location) (names : List String) : Except Refusal Location :=
  match t.advance here names with
  | .arrived place => .ok place
  | .refused why => .error why
  | .linked target base rest =>
    match budget with
    | 0 => .error .linkLoop
    | budget + 1 => t.follow budget (origin target base) (Path.components target ++ rest)

/-- What makes a path unfit before anything is looked up. -/
def checkPath (path : String) : Except Refusal Unit :=
  if path.toList.contains '\x00' then .error .nulInPath
  else if path = "" then .error .notFound
  else if pathLimit < path.utf8ByteSize then .error .nameTooLong
  else .ok ()

/-- The location that a path names, seen from `start`. -/
def resolve (t : Tree) (start : Location) (path : String) : Except Refusal Location :=
  match checkPath path with
  | .error why => .error why
  | .ok () => t.follow linkLimit (origin path start) (Path.components path)

/-- The location that a path names if it is a directory. -/
def resolveDirectory (t : Tree) (start : Location) (path : String) : Except Refusal Location :=
  match t.resolve start path with
  | .error why => .error why
  | .ok place =>
    match t.lookup place with
    | some .directory => .ok place
    | _ => .error .notDirectory

/-- The location of the entry that a path names. Links on the way to it are followed, but
not the entry itself. -/
def resolveEntry (t : Tree) (start : Location) (path : String) : Except Refusal Location :=
  match checkPath path with
  | .error why => .error why
  | .ok () =>
    match (Path.components path).getLast? with
    | none => .ok []
    | some last =>
      match t.follow linkLimit (origin path start) ((Path.components path).dropLast ++ ["."]) with
      | .error why => .error why
      | .ok parent => .ok (last :: parent)

/-- Whether something stands where a path leads. -/
def isThere (t : Tree) (start : Location) (path : String) : Bool :=
  (t.resolve start path).isOk

theorem isThere_of_ok {t : Tree} {start place : Location} {path : String} (h : t.resolve start path = .ok place) :
    t.isThere start path = true := by
  rw [isThere, h]
  rfl

theorem isThere_of_error {t : Tree} {start : Location} {path : String} {why : Refusal}
    (h : t.resolve start path = .error why) : t.isThere start path = false := by
  rw [isThere, h]
  rfl

/-- Whether a path leads to a directory. -/
def isDirectory (t : Tree) (start : Location) (path : String) : Bool :=
  (t.resolveDirectory start path).isOk

end Tree

end DocRunner
