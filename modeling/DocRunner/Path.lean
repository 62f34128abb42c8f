import DocRunner.Text.Blank

/-!
# Path texts

* `isAbsolute p` : `p` starts at the root;
* `dropSlashes p` : `p` without the slashes at its end;
* `join base p` : where `p` leads from `base`, as a text: `p` itself if it is absolute, else the two with one
  slash between them. Nothing is normalised, and an empty `p` leaves a trailing slash;
* `components p` : the names to walk through, in order. Empty names are left out, and a slash at the end asks
  for a directory, which a final `.` says as well;
* `isName name` : an entry can have the name: it is not empty, holds no slash and no NUL, and
  is neither `.` nor `..`.
-/

namespace DocRunner.Path

/-- Whether a path starts at the root. -/
def isAbsolute (p : String) : Bool :=
  p.toList.head? == some '/'

/-- Whether a path ends with a slash. -/
def endsWithSlash (p : String) : Bool :=
  p.toList.getLast? == some '/'

/-- A path without the slashes at its end. -/
def dropSlashes (p : String) : String :=
  String.ofList (p.toList.reverse.dropWhile (· = '/')).reverse

/-- Where a path leads from a base, as a text. -/
def join (base p : String) : String :=
  if isAbsolute p then p
  else if base == "" || endsWithSlash base then base ++ p
  else base ++ "/" ++ p

/-- The pieces between the characters `sep`, the empty ones too. -/
def piecesAt (sep : Char) : List Char → List (List Char)
  | [] => [[]]
  | c :: cs => if c = sep then [] :: piecesAt sep cs else Text.consFirst c (piecesAt sep cs)

/-- The names that a path walks through. -/
def components (p : String) : List String :=
  ((piecesAt '/' p.toList).filter (· ≠ [])).map String.ofList ++ if endsWithSlash p then ["."] else []

/-- Whether an entry can have a name. -/
def isName (name : String) : Bool :=
  name ≠ "" && name ≠ "." && name ≠ ".." && !name.toList.contains '/' && !name.toList.contains '\x00'

end DocRunner.Path
