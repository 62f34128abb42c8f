import DocRunner.Tree.Resolve

/-!
# Reading and changing a file tree by paths

* `Tree.readDirectory`, `Tree.readText` : the names in a directory, the text of a file;
* `Tree.removePath t start path` : removes the entry that a path names. Links are followed only to learn whether
  there is anything: a path that leads nowhere is no error, and a link is removed itself;
* `Tree.makeDirectories` : makes the directories on a way that are missing;
* `Tree.writeFile t start path bytes` : writes a file, with the directories on the way to it. A write that
  cannot be done is left out.
-/

namespace DocRunner

namespace Tree

/-- The names in a directory, in rising order. -/
def readDirectory (t : Tree) (start : Location) (path : String) : Except Refusal (List String) :=
  match t.resolveDirectory start path with
  | .error why => .error why
  | .ok place => .ok (t.names place)

/-- The text of a file, which has to be UTF-8. -/
def readText (t : Tree) (start : Location) (path : String) : Except Refusal String :=
  match t.resolve start path with
  | .error why => .error why
  | .ok place =>
    match t.lookup place with
    | some (.file bytes) =>
      match String.fromUTF8? bytes with
      | some text => .ok text
      | none => .error .notUtf8
    | some (.tool program) => .ok program.script
    | some .directory => .error .isDirectory
    | _ => .error .notFound

/-- Removes the entry that a path names, with all that stands below it. A path that
leads nowhere is no error. -/
def removePath (t : Tree) (start : Location) (path : String) : Except Refusal Tree :=
  match t.resolve start path with
  | .error .notFound => .ok t
  | .error why => .error why
  | .ok _ => (t.resolveEntry start path).map t.erase

/-- Makes the directories that are missing on the way along some names. Gives the tree so far and, if the way
can be gone to its end, where it leads. -/
def makeDirectories (t : Tree) (here : Location) : List String → Tree × Except Refusal Location
  | [] => (t, .ok here)
  | name :: rest =>
    if name = "." then t.makeDirectories here rest
    else if name = ".." then t.makeDirectories here.tail rest
    else if nameLimit < name.utf8ByteSize then (t, .error .nameTooLong)
    else match t.lookup (name :: here) with
      | none => (t.put (name :: here) .directory).makeDirectories (name :: here) rest
      | some _ =>
        match t.follow linkLimit here [name, "."] with
        | .error why => (t, .error why)
        | .ok place => t.makeDirectories place rest

/-- Writes the file of a name in a directory. A link there is followed, also to a file that is still missing. -/
def writeIn (t : Tree) (budget : Nat) (parent : Location) (name : String) (bytes : ByteArray) : Tree :=
  if name = "." || name = ".." || nameLimit < name.utf8ByteSize then t
  else match t.lookup (name :: parent) with
    | some .directory => t
    | some (.link target) =>
      match budget with
      | 0 => t
      | budget + 1 =>
        match (Path.components target).getLast? with
        | none => t
        | some last =>
          match t.follow budget (origin target parent) ((Path.components target).dropLast ++ ["."]) with
          | .error _ => t
          | .ok next => t.writeIn budget next last bytes
    | _ => t.put (name :: parent) (.file bytes)

/-- Writes a file, with the directories on the way to it. A write that cannot be done is left out. -/
def writeFile (t : Tree) (start : Location) (path : String) (bytes : ByteArray) : Tree :=
  match checkPath path with
  | .error _ => t
  | .ok () =>
    match (Path.components path).getLast? with
    | none => t
    | some last =>
      match t.makeDirectories (origin path start) (Path.components path).dropLast with
      | (made, .error _) => made
      | (made, .ok parent) => made.writeIn linkLimit parent last bytes

/-- Sets up an entry at a path, with the directories on the way to it. A file is written as `writeFile` does;
any other entry takes the place of what was there, but a directory keeps its entries. -/
def place (t : Tree) (start : Location) (path : String) : Entry → Tree
  | .file bytes => t.writeFile start path bytes
  | .directory => (t.makeDirectories (origin path start) (Path.components path)).1
  | entry =>
    match (Path.components path).getLast? with
    | none => t
    | some last =>
      match t.makeDirectories (origin path start) (Path.components path).dropLast with
      | (made, .error _) => made
      | (made, .ok parent) => made.put (last :: parent) entry

end Tree

end DocRunner
