import DocRunner.Toml.Value

/-!
# Building a document

A document is built from assignments and headers in the order they are written. What a table was made by decides
what may still be added to it:

* `Origin` : a table has a header, was implied by the header of a table in it, or was made by a dotted key;
* `Entries.assign` : gives a key of the table at a path a value. No key gets two values, and a dotted key adds
  only to tables that dotted keys have made;
* `Entries.openTable`, `Entries.openElement` : what the headers of a table and of an element of an array of
  tables do. A table gets one header. If it was implied before, it moves to the end of the table around it.
-/

namespace DocRunner.Toml

/-- What a table was made by. -/
inductive Origin
  | header
  | implied
  | dotted
  deriving DecidableEq

/-- What a key stands for while a document is built. -/
inductive Item
  | value (v : Value)
  | table (origin : Origin) (entries : List (String × Item))
  | tables (elements : List (List (String × Item)))

/-- The entries of a table that is built, in order. -/
abbrev Entries := List (String × Item)

namespace Entries

/-- Puts an item in the place of the one of a key. -/
def replace (es : Entries) (key : String) (item : Item) : Entries :=
  es.map fun e => if e.1 = key then (key, item) else e

/-- Changes the table at a path, which tables that are missing on the way are made for. On the way of a dotted
key, no table with a header may be entered. The change is told whether a dotted key has made the table. -/
def under (dotted : Bool) (change : Bool → Entries → Option Entries) :
    List String → Bool → Entries → Option Entries
  | [], isDotted, es => change isDotted es
  | key :: path, _, es =>
    match es.lookup key with
    | none =>
      (under dotted change path dotted []).map fun sub =>
        es ++ [(key, .table (if dotted then .dotted else .implied) sub)]
    | some (.value _) => none
    | some (.table origin sub) =>
      if dotted && origin = .header then none
      else (under dotted change path (origin = .dotted) sub).map fun sub => replace es key (.table origin sub)
    | some (.tables elements) =>
      (under dotted change path false (elements.getLast?.getD [])).map fun sub =>
        replace es key (.tables (elements.dropLast ++ [sub]))

/-- Adds an entry with a key that is not there. -/
def add (es : Entries) (key : String) (item : Item) : Option Entries :=
  if (es.lookup key).isSome then none else some (es ++ [(key, item)])

/-- Gives the key at the end of a path a value in the table with a header's path. -/
def assign (header path : List String) (key : String) (v : Value) (es : Entries) : Option Entries :=
  under false (fun _ es =>
    under true (fun isDotted es => if isDotted == path.isEmpty then none else add es key (.value v))
      path false es)
    header false es

/-- What the header of a table does. -/
def openTable (path : List String) (key : String) (es : Entries) : Option Entries :=
  under false (fun _ es =>
    match es.lookup key with
    | none => some (es ++ [(key, .table .header [])])
    | some (.table .implied sub) => some (es.filter (·.1 ≠ key) ++ [(key, .table .header sub)])
    | some _ => none) path false es

/-- What the header of an element of an array of tables does. -/
def openElement (path : List String) (key : String) (es : Entries) : Option Entries :=
  under false (fun _ es =>
    match es.lookup key with
    | none => some (es ++ [(key, .tables [[]])])
    | some (.tables elements) => some (replace es key (.tables (elements ++ [[]])))
    | some _ => none) path false es

end Entries

/-! ## The finished document -/

mutual

/-- The value that an item has become. -/
def Item.toValue : Item → Value
  | .value v => v
  | .table _ entries => .table (entriesToValues entries)
  | .tables elements => .array (elementsToValues elements)

/-- The entries that a table has ended up with. -/
def entriesToValues : List (String × Item) → List (String × Value)
  | [] => []
  | (key, item) :: rest => (key, item.toValue) :: entriesToValues rest

/-- The tables that an array has ended up with. -/
def elementsToValues : List (List (String × Item)) → List Value
  | [] => []
  | entries :: rest => .table (entriesToValues entries) :: elementsToValues rest

end

end DocRunner.Toml
