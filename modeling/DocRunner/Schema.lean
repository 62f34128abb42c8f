import DocRunner.Text.Quoted

/-!
# How data can miss the layout that is expected

`Mismatch` lists the ways in which a well formed document can differ from the layout that a reader expects of
it, and `Mismatch.message` is their wording. `Shape` names what was found instead.
-/

namespace DocRunner

/-- What stands where something else is expected. -/
inductive Shape
  | integer (value : Int)
  | float
  | boolean (value : Bool)
  | text (value : String)
  | sequence
  | map
  | null
  deriving DecidableEq, Repr

/-- Names in backticks, in the form "`a`", "`a` or `b`" or "one of `a`, `b`, `c`". -/
def expectedNames : List String → String
  | [] => "nothing"
  | [a] => "`" ++ a ++ "`"
  | [a, b] => "`" ++ a ++ "` or `" ++ b ++ "`"
  | names => "one of " ++ String.intercalate ", " (names.map fun name => "`" ++ name ++ "`")

namespace Shape

/-- How a shape reads. -/
def description : Shape → String
  | integer value => "integer `" ++ toString value ++ "`"
  | float => "floating point"
  | boolean value => "boolean `" ++ (if value then "true" else "false") ++ "`"
  | text value => "string " ++ Text.valueStyle.quote value
  | sequence => "sequence"
  | map => "map"
  | null => "null"

end Shape

/-- How data miss the expected layout. -/
inductive Mismatch
  | unknownField (name : String) (known : List String)
  | missingField (name : String)
  | duplicateField (name : String)
  | wrongType (found : Shape) (expected : String)
  | outOfRange (found : Int) (expected : String)
  | wrongLength (found : Nat) (expected : String)
  deriving DecidableEq, Repr

namespace Mismatch

/-- How a mismatch reads. -/
def message : Mismatch → String
  | unknownField name known => "unknown field `" ++ name ++ "`, expected " ++ expectedNames known
  | missingField name => "missing field `" ++ name ++ "`"
  | duplicateField name => "duplicate field `" ++ name ++ "`"
  | wrongType found expected => "invalid type: " ++ found.description ++ ", expected " ++ expected
  | outOfRange found expected => "invalid value: " ++ (Shape.integer found).description ++
      ", expected " ++ expected
  | wrongLength found expected => "invalid length " ++ toString found ++ ", expected " ++ expected

end Mismatch

/-- What is wrong with a document: its syntax, or its layout. -/
inductive DocumentError
  | malformed
  | mismatch (m : Mismatch)
  deriving DecidableEq, Repr

namespace DocumentError

/-- How a document error reads, when bad syntax is called `malformedText`. -/
def message (malformedText : String) : DocumentError → String
  | malformed => malformedText
  | mismatch m => m.message

end DocumentError

end DocRunner
